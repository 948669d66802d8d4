import PluginChain.Elf.Error

/-!
# The layout of ELF images

An image is a sequence of bytes. Its first bytes give the layout of all the rest: whether addresses
have 32 or 64 bits, and in which order the bytes of a number stand. Numbers and offsets are natural
numbers here; the format keeps them below two to the power 64, so that a sum of offsets that reaches
this bound is cut off below it (`saturatingAdd`) or has no value (`checkedAdd`).

In `osrkit` a layout is a `Reader` without its bytes: `ofImage` is its `new`, `read` its `bytes` and
`readWord` its `word`.
-/

namespace PluginChain.Elf

/-- The bytes of an image. -/
abbrev Image := Array UInt8

/-! ## Offsets of 64 bits -/

/-- One more than the greatest offset: two to the power 64. -/
def offsetBound : Nat := 0x10000000000000000

/-- The sum of two offsets, or the greatest offset where the sum is none. -/
def saturatingAdd (a b : Nat) : Nat := min (a + b) (offsetBound - 1)

/-- The sum of two offsets, if it is one. -/
def checkedAdd (a b : Nat) : Option Nat := if a + b < offsetBound then some (a + b) else none

/-! ## Numbers as bytes -/

/-- The order in which the bytes of a number stand. -/
inductive ByteOrder where
  /-- The least byte first. -/
  | little
  /-- The greatest byte first. -/
  | big
deriving DecidableEq, Repr

/-- The number that bytes make with the least one first. -/
def ofLittle : List UInt8 → Nat
  | [] => 0
  | b :: rest => b.toNat + 256 * ofLittle rest

/-- The number that bytes make in an order. -/
def ByteOrder.number : ByteOrder → List UInt8 → Nat
  | little, bytes => ofLittle bytes
  | big, bytes => ofLittle bytes.reverse

/-- How many bits an address has. -/
inductive WordSize where
  | bits32
  | bits64
deriving DecidableEq, Repr

/-- The number of bytes in an address. -/
def WordSize.bytes : WordSize → Nat
  | bits32 => 4
  | bits64 => 8

/-- The layout of an image. -/
structure Layout where
  wordSize : WordSize
  order : ByteOrder
deriving DecidableEq, Repr

/-! ## Reading -/

/-- The first four bytes of every image. -/
def magic : List UInt8 := [0x7F, 0x45, 0x4C, 0x46]

/-- The word size that a byte of the header stands for. -/
def WordSize.ofCode : UInt8 → Except Error WordSize
  | 1 => .ok .bits32
  | 2 => .ok .bits64
  | number => .error (.unsupportedClass number)

/-- The byte order that a byte of the header stands for. -/
def ByteOrder.ofCode : UInt8 → Except Error ByteOrder
  | 1 => .ok .little
  | 2 => .ok .big
  | number => .error (.unsupportedEncoding number)

/-- The layout that the first bytes of an image give. -/
def Layout.ofImage (image : Image) : Except Error Layout :=
  if image.size < 16 || (image.extract 0 4).toList != magic then .error .notElf
  else do
    let wordSize ← WordSize.ofCode (image.getD 4 0)
    let order ← ByteOrder.ofCode (image.getD 5 0)
    return { wordSize, order }

/-- The number in the `width` bytes at `offset`, if all of them are in the image. -/
def ByteOrder.read (order : ByteOrder) (image : Image) (part : Part)
    (offset width : Nat) : Except Error Nat :=
  if offset + width ≤ image.size then
    .ok (order.number (image.extract offset (offset + width)).toList)
  else .error (.truncated part)

/-- The address or offset at `offset`. -/
def Layout.readWord (layout : Layout) (image : Image) (part : Part)
    (offset : Nat) : Except Error Nat :=
  layout.order.read image part offset layout.wordSize.bytes

end PluginChain.Elf

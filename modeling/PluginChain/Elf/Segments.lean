import PluginChain.Elf.Layout

/-!
# Segments

The program headers of an image are a table of segments. The header of the image says where the
table begins, how far apart its entries are and how many there are.

In `osrkit` this is `segments`.
-/

namespace PluginChain.Elf

/-- What a program header says of its segment. -/
structure Segment where
  /-- Which kind of segment it is. -/
  kind : Nat
  /-- Where it begins in the image. -/
  offset : Nat
  /-- Where it begins in memory. -/
  address : Nat
  /-- How many bytes of the image it takes. -/
  size : Nat
deriving DecidableEq, Repr

/-- The kind of a segment that is loaded into memory. -/
def loadable : Nat := 1

/-- The kind of the segment that holds the dynamic section. -/
def dynamic : Nat := 2

/-- Where the table of program headers stands. -/
structure HeaderTable where
  start : Nat
  entrySize : Nat
  count : Nat
deriving DecidableEq, Repr

/-- Where the fields of the header of an image stand: the start of the table of program headers, the
    size of its entries and their count. -/
def WordSize.headerFields : WordSize → Nat × Nat × Nat
  | .bits32 => (0x1C, 0x2A, 0x2C)
  | .bits64 => (0x20, 0x36, 0x38)

/-- Where the fields of a program header stand: offset, address and size of the segment. -/
def WordSize.segmentFields : WordSize → Nat × Nat × Nat
  | .bits32 => (4, 8, 16)
  | .bits64 => (8, 16, 32)

/-- Reads where the table of program headers stands. -/
def Layout.headerTable (layout : Layout) (image : Image) : Except Error HeaderTable := do
  let (startAt, sizeAt, countAt) := layout.wordSize.headerFields
  let start ← layout.readWord image .header startAt
  let entrySize ← layout.order.read image .header sizeAt 2
  let count ← layout.order.read image .header countAt 2
  return { start, entrySize, count }

/-- Reads the program header at `base`. -/
def Layout.segmentAt (layout : Layout) (image : Image) (base : Nat) : Except Error Segment := do
  let (offsetAt, addressAt, sizeAt) := layout.wordSize.segmentFields
  let kind ← layout.order.read image .programHeader base 4
  let offset ← layout.readWord image .programHeader (saturatingAdd base offsetAt)
  let address ← layout.readWord image .programHeader (saturatingAdd base addressAt)
  let size ← layout.readWord image .programHeader (saturatingAdd base sizeAt)
  return { kind, offset, address, size }

/-- Reads `count` program headers from number `index` on. -/
def Layout.segmentsFrom (layout : Layout) (image : Image) (table : HeaderTable) (index : Nat) :
    (count : Nat) → Except Error (List Segment)
  | 0 => .ok []
  | count + 1 =>
    match checkedAdd table.start (index * table.entrySize) with
    | none => .error (.truncated .programHeaders)
    | some base => do
      let segment ← layout.segmentAt image base
      let rest ← layout.segmentsFrom image table (index + 1) count
      return segment :: rest

/-- Reads all program headers. -/
def Layout.segments (layout : Layout) (image : Image) : Except Error (List Segment) := do
  let table ← layout.headerTable image
  layout.segmentsFrom image table 0 table.count

end PluginChain.Elf

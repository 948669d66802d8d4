import PluginChain.Elf.Segments
import PluginChain.Text.Utf8

/-!
# The libraries that an image needs

The dynamic section of an image is a list of tagged values. It ends at a null entry or with its
segment. Each entry for a needed library gives the place of a name in the string table; the address
and the size of that table are entries too, of which the last ones count. The address is turned into
an offset by the first loadable segment that holds it.

In `osrkit` this is `needed_libraries`, and `textAt` is `read_cstr`.
-/

namespace PluginChain.Elf

/-! ## The dynamic section -/

/-- An entry of the dynamic section. -/
structure Entry where
  tag : Nat
  value : Nat
deriving DecidableEq, Repr

/-- The tag that ends the section. -/
def nullTag : Nat := 0

/-- The tag of a needed library. -/
def neededTag : Nat := 1

/-- The tag of the address of the string table. -/
def stringTableTag : Nat := 5

/-- The tag of the size of the string table. -/
def stringSizeTag : Nat := 10

/-- The number of bytes in an entry: a tag and a value. -/
def WordSize.entryBytes (w : WordSize) : Nat := 2 * w.bytes

/-- Reads the entry at `offset`. -/
def Layout.entryAt (layout : Layout) (image : Image) (offset : Nat) : Except Error Entry := do
  let tag ← layout.readWord image .dynamicSection offset
  let value ← layout.readWord image .dynamicSection (saturatingAdd offset layout.wordSize.bytes)
  return { tag, value }

/-- Reads at most `count` entries from number `index` on, up to the null entry, which is left
    out. -/
def Layout.entriesFrom (layout : Layout) (image : Image) (start index : Nat) :
    (count : Nat) → Except Error (List Entry)
  | 0 => .ok []
  | count + 1 => do
    let entry ← layout.entryAt image (saturatingAdd start (index * layout.wordSize.entryBytes))
    if entry.tag = nullTag then return []
    else
      let rest ← layout.entriesFrom image start (index + 1) count
      return entry :: rest

/-- Reads the entries of the dynamic section in a segment. -/
def Layout.entries (layout : Layout) (image : Image) (segment : Segment) :
    Except Error (List Entry) :=
  layout.entriesFrom image segment.offset 0 (segment.size / layout.wordSize.entryBytes)

/-- The values of all entries with a tag, in order. -/
def valuesOf (tag : Nat) (entries : List Entry) : List Nat :=
  (entries.filter fun e => e.tag = tag).map (·.value)

/-- The value of the last entry with a tag. -/
def lastOf? (tag : Nat) (entries : List Entry) : Option Nat :=
  (valuesOf tag entries).getLast?

/-! ## The string table -/

/-- Whether a segment holds an address. The segment ends where its size says, or at the top of the
    address space. -/
def Segment.holds (s : Segment) (address : Nat) : Bool :=
  s.address ≤ address && address < saturatingAdd s.address s.size

/-- The offset in the image of an address in memory. -/
def offsetOf? (segments : List Segment) (address : Nat) : Option Nat :=
  ((segments.filter fun s => s.kind = loadable).find? fun s => s.holds address).bind fun s =>
    checkedAdd s.offset (address - s.address)

/-- The place of the first NUL among the `count` bytes from `offset` on. -/
def nulFrom (image : Image) (offset : Nat) : (count : Nat) → Option Nat
  | 0 => none
  | count + 1 =>
    match image[offset]? with
    | none => none
    | some b => if b = 0 then some offset else nulFrom image (offset + 1) count

/-- Reads the text that begins at `offset` and ends before a NUL. The NUL must lie in the image, and
    within `limit` bytes if there is a limit. -/
def textAt (image : Image) (offset : Nat) (limit : Option Nat) : Except Error String :=
  if image.size < offset then .error (.truncated .stringTable)
  else
    let window := match limit with
      | some n => min n (image.size - offset)
      | none => image.size - offset
    match nulFrom image offset window with
    | none => .error (.truncated .stringTable)
    | some stop =>
      match Text.Utf8.decode? (image.extract offset stop).toList with
      | some name => .ok name
      | none => .error .invalidName

/-- Reads the name at `place` of the string table at `table`. What is left of the table from there
    on is the limit of the name. -/
def nameAt (image : Image) (table : Nat) (tableSize : Option Nat) (place : Nat) :
    Except Error String :=
  match checkedAdd table place with
  | none => .error (.truncated .stringTable)
  | some offset => textAt image offset (tableSize.map fun size => size - place)

/-- Reads names in order; the first that cannot be read decides the error. -/
def namesAt (image : Image) (table : Nat) (tableSize : Option Nat) :
    List Nat → Except Error (List String)
  | [] => .ok []
  | place :: rest => do
    let name ← nameAt image table tableSize place
    let names ← namesAt image table tableSize rest
    return name :: names

/-! ## Needed libraries -/

/-- The names of the libraries that the entries of a dynamic section ask for. -/
def neededOf (image : Image) (segments : List Segment) (entries : List Entry) :
    Except Error (List String) :=
  match valuesOf neededTag entries with
  | [] => .ok []
  | place :: places =>
    match lastOf? stringTableTag entries with
    | none => .error .noStringTable
    | some address =>
      match offsetOf? segments address with
      | none => .error (.unmappedStringTable address)
      | some table => namesAt image table (lastOf? stringSizeTag entries) (place :: places)

/-- The names of the libraries that an image needs, in the order of the image. -/
def neededLibraries (image : Image) : Except Error (List String) := do
  let layout ← Layout.ofImage image
  let segments ← layout.segments image
  match segments.find? fun s => s.kind = dynamic with
  | none => throw .noDynamicSegment
  | some segment =>
    let entries ← layout.entries image segment
    neededOf image segments entries

end PluginChain.Elf

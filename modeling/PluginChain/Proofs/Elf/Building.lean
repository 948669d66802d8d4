import Mathlib.Algebra.Group.Nat.Defs
import PluginChain.Proofs.Elf.Acceptance

/-!
# Building images

`build` makes the image of a small shared object that needs given libraries: a header, a loadable
segment that covers the image, a dynamic segment, the string table, and the dynamic section with one
entry for each library. The image is made by writing patches over zeros, one after the other from
the lowest offset up, so no patch touches another.

Main statements:
* `ByteOrder.number_bytes`: a number that fits is what its bytes make, in either order.
* `hasAt_patched`: patches that lie one after the other are all in the image.
* `neededLibraries_build`: the libraries that an image was built with are those that are read of it,
  in order.
-/

namespace PluginChain.Elf

/-! ## Numbers as bytes -/

/-- The lowest `width` bytes of a number, the least one first. -/
def toLittle : (width : Nat) → Nat → List UInt8
  | 0, _ => []
  | width + 1, n => UInt8.ofNat n :: toLittle width (n / 256)

/-- The lowest `width` bytes of a number in an order. -/
def ByteOrder.bytes (order : ByteOrder) (width n : Nat) : List UInt8 :=
  match order with
  | little => toLittle width n
  | big => (toLittle width n).reverse

theorem length_toLittle (width n : Nat) : (toLittle width n).length = width := by
  induction width generalizing n with
  | zero => rfl
  | succ width ih => rw [toLittle, List.length_cons, ih]

theorem ofLittle_toLittle {width n : Nat} (h : n < 256 ^ width) :
    ofLittle (toLittle width n) = n := by
  induction width generalizing n with
  | zero =>
    rw [Nat.pow_zero, Nat.lt_one_iff] at h
    rw [h]
    rfl
  | succ width ih =>
    have hrest : n / 256 < 256 ^ width :=
      Nat.div_lt_of_lt_mul (by rwa [Nat.pow_succ, Nat.mul_comm] at h)
    rw [toLittle, ofLittle, ih hrest, UInt8.toNat_ofNat']
    exact Nat.mod_add_div n 256

@[simp] theorem ByteOrder.length_bytes (order : ByteOrder) (width n : Nat) :
    (order.bytes width n).length = width := by
  cases order <;> simp [bytes, length_toLittle]

/-- A number that fits into its bytes is what they make. -/
theorem ByteOrder.number_bytes (order : ByteOrder) {width n : Nat} (h : n < 256 ^ width) :
    order.number (order.bytes width n) = n := by
  cases order <;> simp [bytes, number, ofLittle_toLittle h]

theorem ByteOrder.shows_of_hasAt {order : ByteOrder} {image : Image} {offset width n : Nat}
    (h : HasAt image offset (order.bytes width n)) (hn : n < 256 ^ width) :
    order.Shows image offset width n :=
  ⟨_, order.length_bytes width n, h, order.number_bytes hn⟩

/-! ## Patches -/

/-- Bytes to be written at an offset. -/
structure Patch where
  offset : Nat
  bytes : List UInt8

/-- The offset after the last byte. -/
def Patch.stop (p : Patch) : Nat := p.offset + p.bytes.length

/-- The image with bytes written over those from `offset` on. -/
def overwrite (image : Image) (offset : Nat) : List UInt8 → Image
  | [] => image
  | b :: rest => overwrite (image.setIfInBounds offset b) (offset + 1) rest

/-- The image with patches written over it, in order. -/
def patched (image : Image) (patches : List Patch) : Image :=
  patches.foldl (fun image p => overwrite image p.offset p.bytes) image

@[simp] theorem size_overwrite (image : Image) (offset : Nat) (bytes : List UInt8) :
    (overwrite image offset bytes).size = image.size := by
  induction bytes generalizing image offset with
  | nil => rfl
  | cons b rest ih => rw [overwrite, ih, Array.size_setIfInBounds]

@[simp] theorem size_patched (image : Image) (patches : List Patch) :
    (patched image patches).size = image.size := by
  induction patches generalizing image with
  | nil => rfl
  | cons p rest ih => rw [patched, List.foldl_cons, ← patched, ih, size_overwrite]

/-- What is not written over stays. -/
theorem HasAt.overwrite {image : Image} {offset at_ : Nat} {bytes other : List UInt8}
    (h : HasAt image offset bytes)
    (hapart : offset + bytes.length ≤ at_ ∨ at_ + other.length ≤ offset) :
    HasAt (overwrite image at_ other) offset bytes := by
  induction other generalizing image at_ with
  | nil => exact h
  | cons b rest ih =>
    rw [List.length_cons] at hapart
    refine ih (fun i hi => ?_) (by omega)
    rw [Array.getElem?_setIfInBounds_ne (by omega), h i hi]

theorem hasAt_overwrite {image : Image} {offset : Nat} {bytes : List UInt8}
    (hsize : offset + bytes.length ≤ image.size) :
    HasAt (overwrite image offset bytes) offset bytes := by
  induction bytes generalizing image offset with
  | nil => exact hasAt_nil
  | cons b rest ih =>
    rw [List.length_cons] at hsize
    refine hasAt_cons.2 ⟨?_, ih (by rw [Array.size_setIfInBounds]; omega)⟩
    have hfirst : HasAt (image.setIfInBounds offset b) offset [b] := by
      rw [hasAt_singleton, Array.getElem?_setIfInBounds_self_of_lt (by omega)]
    exact hasAt_singleton.1 (hfirst.overwrite (.inl (by simp)))

/-- The patches lie one after the other between two offsets. -/
def Fill (start : Nat) : List Patch → Nat → Prop
  | [], stop => start ≤ stop
  | p :: rest, stop => start ≤ p.offset ∧ Fill p.stop rest stop

theorem Fill.of_le {start mid stop : Nat} {patches : List Patch} (hle : start ≤ mid)
    (h : Fill mid patches stop) :
    Fill start patches stop := by
  cases patches with
  | nil => exact Nat.le_trans hle h
  | cons p rest => exact ⟨Nat.le_trans hle h.1, h.2⟩

theorem Fill.append {start mid stop : Nat} {a b : List Patch} (ha : Fill start a mid)
    (hb : Fill mid b stop) :
    Fill start (a ++ b) stop := by
  induction a generalizing start with
  | nil => exact hb.of_le ha
  | cons p rest ih => exact ⟨ha.1, ih ha.2⟩

theorem Fill.le {start stop : Nat} {patches : List Patch} (h : Fill start patches stop) :
    start ≤ stop := by
  induction patches generalizing start with
  | nil => exact h
  | cons p rest ih => exact Nat.le_trans h.1 (Nat.le_trans (Nat.le_add_right _ _) (ih h.2))

/-- What stands before all patches stays. -/
theorem HasAt.patched {image : Image} {offset start stop : Nat} {bytes : List UInt8}
    {patches : List Patch} (h : HasAt image offset bytes) (hbefore : offset + bytes.length ≤ start)
    (hfill : Fill start patches stop) :
    HasAt (patched image patches) offset bytes := by
  induction patches generalizing image start with
  | nil => exact h
  | cons p rest ih =>
    have hp := hfill.1
    exact ih (h.overwrite (.inl (by omega))) (by rw [Patch.stop]; omega) hfill.2

theorem hasAt_patched {image : Image} {start stop : Nat} {patches : List Patch}
    (hfill : Fill start patches stop) (hsize : stop ≤ image.size) :
    ∀ p ∈ patches, HasAt (patched image patches) p.offset p.bytes := by
  induction patches generalizing image start with
  | nil => simp
  | cons first rest ih =>
    have hfirst : first.stop ≤ image.size := Nat.le_trans hfill.2.le hsize
    refine List.forall_mem_cons.2 ⟨?_, ih hfill.2 (by rwa [size_overwrite])⟩
    exact (hasAt_overwrite hfirst).patched (Nat.le_refl _) hfill.2

/-! ### Rows -/

/-- The rows of a table, `width` bytes apart, the first one at `base`. -/
def rowsPatches {α : Type} (row : Nat → α → List Patch) (width base : Nat) : List α → List Patch
  | [] => []
  | a :: rest => row base a ++ rowsPatches row width (base + width) rest

section Rows

variable {α : Type} {row : Nat → α → List Patch} {width : Nat}

theorem fill_rowsPatches (hrow : ∀ base a, Fill base (row base a) (base + width)) (base : Nat)
    (rows : List α) :
    Fill base (rowsPatches row width base rows) (base + rows.length * width) := by
  induction rows generalizing base with
  | nil => simp [rowsPatches, Fill]
  | cons a rest ih =>
    have hrest := ih (base + width)
    rw [Nat.add_assoc, Nat.add_comm width, ← Nat.succ_mul] at hrest
    exact (hrow base a).append hrest

/-- Where the rows are in the image, it shows them. -/
theorem rows_of_hasAt {image : Image} {P : Nat → α → Prop} {base index : Nat} {rows : List α}
    (hrow : ∀ offset, ∀ a ∈ rows, (∀ p ∈ row offset a, HasAt image p.offset p.bytes) → P offset a)
    (hrows : ∀ p ∈ rowsPatches row width (base + index * width) rows,
      HasAt image p.offset p.bytes) :
    Rows (fun i a => P (base + i * width) a) index rows := by
  induction rows generalizing index with
  | nil => exact rows_nil
  | cons a rest ih =>
    obtain ⟨ha, hrest⟩ := List.forall_mem_append.1 hrows
    rw [Nat.add_assoc, ← Nat.succ_mul] at hrest
    exact rows_cons.2
      ⟨hrow _ a (by simp) ha, ih (fun offset b hb => hrow offset b (by simp [hb])) hrest⟩

end Rows

/-! ## The image -/

/-- Where the image is loaded. -/
def baseAddress : Nat := 0x1000

/-- The number of bytes in the header of an image. -/
def WordSize.headerBytes : WordSize → Nat
  | bits32 => 52
  | bits64 => 64

/-- The number of bytes in a program header. -/
def WordSize.segmentBytes : WordSize → Nat
  | bits32 => 32
  | bits64 => 56

/-- The bytes of a name and the NUL that ends it. -/
def terminated (name : String) : List UInt8 := Text.Utf8.encode name ++ [0]

/-- The string table: a NUL, and then the names, each with the NUL that ends it. -/
def stringTable (names : List String) : List UInt8 := 0 :: names.flatMap terminated

/-- The places of the names in the string table, where the first one stands at `next`. -/
def placesFrom (next : Nat) : List String → List Nat
  | [] => []
  | name :: rest => next :: placesFrom (next + (terminated name).length) rest

/-- Where the string table begins: after the header and the two program headers. -/
def WordSize.tableOffset (w : WordSize) : Nat := w.headerBytes + 2 * w.segmentBytes

/-- Where the dynamic section begins: after the string table, at a multiple of eight. -/
def WordSize.sectionOffset (w : WordSize) (names : List String) : Nat :=
  (w.tableOffset + (stringTable names).length + 7) / 8 * 8

/-- The entries of the dynamic section but for the null entry at its end. -/
def WordSize.sectionEntries (w : WordSize) (names : List String) : List Entry :=
  (placesFrom 1 names).map (⟨neededTag, ·⟩) ++
    [⟨stringTableTag, baseAddress + w.tableOffset⟩, ⟨stringSizeTag, (stringTable names).length⟩]

/-- The number of bytes in the dynamic section. -/
def WordSize.sectionBytes (w : WordSize) (names : List String) : Nat :=
  ((w.sectionEntries names).length + 1) * w.entryBytes

/-- The number of bytes in the image. -/
def WordSize.imageBytes (w : WordSize) (names : List String) : Nat :=
  w.sectionOffset names + w.sectionBytes names

/-- The segments of the image: all of it, and the dynamic section. -/
def WordSize.imageSegments (w : WordSize) (names : List String) : List Segment :=
  [⟨loadable, 0, baseAddress, w.imageBytes names⟩,
    ⟨dynamic, w.sectionOffset names, baseAddress + w.sectionOffset names, w.sectionBytes names⟩]

namespace Layout

/-- The header of an image: its first bytes, and where its two program headers stand. -/
def headerPatches (layout : Layout) : List Patch :=
  ⟨0, magic ++ [layout.wordSize.code, layout.order.code, 1]⟩ ::
    match layout.wordSize with
    | .bits32 =>
      [⟨0x1C, layout.order.bytes 4 52⟩, ⟨0x2A, layout.order.bytes 2 32⟩,
        ⟨0x2C, layout.order.bytes 2 2⟩]
    | .bits64 =>
      [⟨0x20, layout.order.bytes 8 64⟩, ⟨0x36, layout.order.bytes 2 56⟩,
        ⟨0x38, layout.order.bytes 2 2⟩]

/-- The program header at `base`. -/
def segmentPatches (layout : Layout) (base : Nat) (s : Segment) : List Patch :=
  ⟨base, layout.order.bytes 4 s.kind⟩ ::
    match layout.wordSize with
    | .bits32 =>
      [⟨base + 4, layout.order.bytes 4 s.offset⟩, ⟨base + 8, layout.order.bytes 4 s.address⟩,
        ⟨base + 16, layout.order.bytes 4 s.size⟩]
    | .bits64 =>
      [⟨base + 8, layout.order.bytes 8 s.offset⟩, ⟨base + 16, layout.order.bytes 8 s.address⟩,
        ⟨base + 32, layout.order.bytes 8 s.size⟩]

/-- The entry of a dynamic section at `base`. -/
def entryPatches (layout : Layout) (base : Nat) (e : Entry) : List Patch :=
  [⟨base, layout.order.bytes layout.wordSize.bytes e.tag⟩,
    ⟨base + layout.wordSize.bytes, layout.order.bytes layout.wordSize.bytes e.value⟩]

/-- Everything that is written into the image. -/
def imagePatches (layout : Layout) (names : List String) : List Patch :=
  layout.headerPatches ++
    (rowsPatches layout.segmentPatches layout.wordSize.segmentBytes layout.wordSize.headerBytes
        (layout.wordSize.imageSegments names) ++
      (⟨layout.wordSize.tableOffset, stringTable names⟩ ::
        rowsPatches layout.entryPatches layout.wordSize.entryBytes
          (layout.wordSize.sectionOffset names)
          (layout.wordSize.sectionEntries names ++ [⟨nullTag, 0⟩])))

/-- The image of a small shared object that needs the libraries with these names. -/
def build (layout : Layout) (names : List String) : Image :=
  patched (Array.replicate (layout.wordSize.imageBytes names) 0) (layout.imagePatches names)

/-- The size of the image and the highest address that its headers name fit into a word; so does
    every other offset and address in the image, as none is higher. -/
structure Fits (layout : Layout) (names : List String) : Prop where
  size : layout.wordSize.imageBytes names < 256 ^ layout.wordSize.bytes
  address : baseAddress + layout.wordSize.sectionOffset names < 256 ^ layout.wordSize.bytes

end Layout

/-! ## The patches lie one after the other -/

theorem Layout.fill_headerPatches (layout : Layout) :
    Fill 0 layout.headerPatches layout.wordSize.headerBytes := by
  obtain ⟨_ | _, o⟩ :=
    layout <;> simp [headerPatches, Fill, Patch.stop, magic, WordSize.headerBytes]

theorem Layout.fill_segmentPatches (layout : Layout) (base : Nat) (s : Segment) :
    Fill base (layout.segmentPatches base s) (base + layout.wordSize.segmentBytes) := by
  obtain ⟨_ | _, o⟩ := layout <;> simp [segmentPatches, Fill, Patch.stop, WordSize.segmentBytes]

theorem Layout.fill_entryPatches (layout : Layout) (base : Nat) (e : Entry) :
    Fill base (layout.entryPatches base e) (base + layout.wordSize.entryBytes) := by
  simp [entryPatches, Fill, Patch.stop, WordSize.entryBytes]
  omega

/-- The dynamic section begins after the string table. -/
theorem WordSize.le_sectionOffset (w : WordSize) (names : List String) :
    w.tableOffset + (stringTable names).length ≤ w.sectionOffset names := by
  unfold sectionOffset
  omega

theorem Layout.fill_imagePatches (layout : Layout) (names : List String) :
    Fill 0 (layout.imagePatches names) (layout.wordSize.imageBytes names) := by
  have hsegments := fill_rowsPatches layout.fill_segmentPatches layout.wordSize.headerBytes
    (layout.wordSize.imageSegments names)
  have hentries := fill_rowsPatches layout.fill_entryPatches (layout.wordSize.sectionOffset names)
    (layout.wordSize.sectionEntries names ++ [⟨nullTag, 0⟩])
  rw [List.length_append, List.length_singleton] at hentries
  have htable := hentries.of_le (layout.wordSize.le_sectionOffset names)
  exact layout.fill_headerPatches.append (hsegments.append ⟨Nat.le_refl _, htable⟩)

theorem Layout.hasAt_build (layout : Layout) (names : List String) :
    ∀ p ∈ layout.imagePatches names, HasAt (layout.build names) p.offset p.bytes :=
  hasAt_patched (layout.fill_imagePatches names) (by simp)

/-! ## What the image shows -/

section

variable {image : Image} {layout : Layout} {names : List String}

theorem Layout.namedBy_of_hasAt (hsize : 16 ≤ image.size)
    (h : HasAt image 0 (magic ++ [layout.wordSize.code, layout.order.code, 1])) :
    layout.NamedBy image := by
  obtain ⟨hmagic, hcodes⟩ := hasAt_append.1 h
  obtain ⟨hwordSize, hrest⟩ := hasAt_cons.1 hcodes
  exact ⟨hsize, hmagic, hwordSize, (hasAt_cons.1 hrest).1⟩

theorem Layout.showsTable_of_hasAt (h : ∀ p ∈ layout.headerPatches, HasAt image p.offset p.bytes) :
    layout.ShowsTable image ⟨layout.wordSize.headerBytes, layout.wordSize.segmentBytes, 2⟩ := by
  have htwo : 2 < 256 ^ 2 := by decide
  obtain ⟨_ | _, o⟩ := layout
  · simp only [headerPatches, List.forall_mem_cons] at h
    obtain ⟨-, hstart, hentrySize, hcount, -⟩ := h
    exact ⟨ByteOrder.shows_of_hasAt hstart (show 52 < 256 ^ 4 by decide),
      ByteOrder.shows_of_hasAt hentrySize (show 32 < 256 ^ 2 by decide),
      ByteOrder.shows_of_hasAt hcount htwo⟩
  · simp only [headerPatches, List.forall_mem_cons] at h
    obtain ⟨-, hstart, hentrySize, hcount, -⟩ := h
    exact ⟨ByteOrder.shows_of_hasAt hstart (show 64 < 256 ^ 8 by decide),
      ByteOrder.shows_of_hasAt hentrySize (show 56 < 256 ^ 2 by decide),
      ByteOrder.shows_of_hasAt hcount htwo⟩

theorem Layout.showsSegment_of_hasAt {base : Nat} {s : Segment}
    (hkind : s.kind < 256 ^ 4) (hoffset : s.offset < 256 ^ layout.wordSize.bytes)
    (haddress : s.address < 256 ^ layout.wordSize.bytes)
    (hsize : s.size < 256 ^ layout.wordSize.bytes)
    (h : ∀ p ∈ layout.segmentPatches base s, HasAt image p.offset p.bytes) :
    layout.ShowsSegment image base s := by
  obtain ⟨_ | _, o⟩ := layout
  · simp only [segmentPatches, List.forall_mem_cons] at h
    obtain ⟨h0, h1, h2, h3, -⟩ := h
    exact ⟨ByteOrder.shows_of_hasAt h0 hkind, ByteOrder.shows_of_hasAt h1 hoffset,
      ByteOrder.shows_of_hasAt h2 haddress, ByteOrder.shows_of_hasAt h3 hsize⟩
  · simp only [segmentPatches, List.forall_mem_cons] at h
    obtain ⟨h0, h1, h2, h3, -⟩ := h
    exact ⟨ByteOrder.shows_of_hasAt h0 hkind, ByteOrder.shows_of_hasAt h1 hoffset,
      ByteOrder.shows_of_hasAt h2 haddress, ByteOrder.shows_of_hasAt h3 hsize⟩

theorem Layout.showsEntry_of_hasAt {base : Nat} {e : Entry}
    (htag : e.tag < 256 ^ layout.wordSize.bytes) (hvalue : e.value < 256 ^ layout.wordSize.bytes)
    (h : ∀ p ∈ layout.entryPatches base e, HasAt image p.offset p.bytes) :
    layout.ShowsEntry image base e := by
  simp only [entryPatches, List.forall_mem_cons] at h
  exact ⟨ByteOrder.shows_of_hasAt h.1 htag, ByteOrder.shows_of_hasAt h.2.1 hvalue⟩

/-! ### The string table -/

theorem length_terminated (name : String) :
    (terminated name).length = (Text.Utf8.encode name).length + 1 := by
  rw [terminated, List.length_append, List.length_singleton]

theorem lt_of_mem_placesFrom {next : Nat} {names : List String} :
    ∀ place ∈ placesFrom next names, place < next + (names.flatMap terminated).length := by
  induction names generalizing next with
  | nil => simp [placesFrom]
  | cons name rest ih =>
    rw [placesFrom, List.flatMap_cons, List.length_append, ← Nat.add_assoc]
    refine List.forall_mem_cons.2 ⟨?_, ih⟩
    have := length_terminated name
    omega

/-- Each name of the string table is read at its place. -/
theorem namesAt_placesFrom {table next : Nat} {Size : Nat → Prop}
    (hat : HasAt image (table + next) (names.flatMap terminated))
    (hnul : ∀ name ∈ names, '\x00' ∉ name.toList)
    (hsize : ∀ size, Size size → next + (names.flatMap terminated).length ≤ size) :
    NamesAt image table Size (placesFrom next names) names := by
  induction names generalizing next with
  | nil => exact .nil
  | cons name rest ih =>
    rw [List.flatMap_cons, hasAt_append, Nat.add_assoc] at hat
    simp only [List.flatMap_cons, List.length_append, ← Nat.add_assoc] at hsize
    obtain ⟨hname, hrest⟩ := List.forall_mem_cons.1 hnul
    have hnameAt : NameAt image (table + next) name :=
      ⟨hat.1, mt Text.Utf8.zero_mem_encode_iff.1 hname⟩
    refine .cons ⟨hnameAt, fun size h => ?_⟩ (ih hat.2 hrest hsize)
    have := hsize size h
    have := length_terminated name
    omega

/-! ## The libraries that the image needs -/

theorem WordSize.mem_sectionEntries {w : WordSize} {e : Entry} :
    e ∈ w.sectionEntries names ↔ (∃ place ∈ placesFrom 1 names, ⟨neededTag, place⟩ = e) ∨
      e = ⟨stringTableTag, baseAddress + w.tableOffset⟩ ∨
        e = ⟨stringSizeTag, (stringTable names).length⟩ := by
  simp [sectionEntries]

/-- The numbers in the dynamic section fit into words. -/
theorem Layout.Fits.entry_lt (h : layout.Fits names) :
    ∀ e ∈ layout.wordSize.sectionEntries names ++ [⟨nullTag, 0⟩],
      e.tag < 256 ^ layout.wordSize.bytes ∧ e.value < 256 ^ layout.wordSize.bytes := by
  have htag : 10 < 256 ^ layout.wordSize.bytes := by cases layout.wordSize <;> decide
  have hsize := h.size
  have haddress := h.address
  have htable := layout.wordSize.le_sectionOffset names
  have himage : layout.wordSize.sectionOffset names ≤ layout.wordSize.imageBytes names :=
    Nat.le_add_right _ _
  intro e he
  rcases List.mem_append.1 he with he | he
  · rcases WordSize.mem_sectionEntries.1 he with ⟨place, hplace, rfl⟩ | rfl | rfl
    · have hlt := lt_of_mem_placesFrom place hplace
      have hlength : (stringTable names).length = 1 + (names.flatMap terminated).length :=
        Nat.add_comm _ _
      exact ⟨Nat.lt_trans (show 1 < 10 by decide) htag, by dsimp only; omega⟩
    · exact ⟨Nat.lt_trans (show 5 < 10 by decide) htag, by dsimp only; omega⟩
    · exact ⟨htag, by dsimp only; omega⟩
  · obtain rfl := List.mem_singleton.1 he
    exact ⟨Nat.zero_lt_of_lt htag, Nat.zero_lt_of_lt htag⟩

theorem Layout.showsSegments_build (h : layout.Fits names) :
    layout.ShowsSegments (layout.build names) (layout.wordSize.imageSegments names) := by
  have hat := layout.hasAt_build names
  simp only [imagePatches, List.forall_mem_append, List.forall_mem_cons] at hat
  obtain ⟨hheader, hsegments, -⟩ := hat
  have hsize := h.size
  have haddress := h.address
  have hsection : layout.wordSize.sectionOffset names + layout.wordSize.sectionBytes names =
    layout.wordSize.imageBytes names := rfl
  refine ⟨_, showsTable_of_hasAt hheader, rfl,
    rows_of_hasAt (fun base s hs hpatches => ?_) (by simpa using hsegments)⟩
  simp only [WordSize.imageSegments, List.mem_cons, List.not_mem_nil, or_false] at hs
  rcases hs with rfl | rfl
  · exact showsSegment_of_hasAt (show 1 < 256 ^ 4 by decide) (Nat.zero_lt_of_lt hsize)
      (show baseAddress < _ by omega) hsize hpatches
  · exact showsSegment_of_hasAt (show 2 < 256 ^ 4 by decide)
      (show layout.wordSize.sectionOffset names < _ by omega)
      haddress (show layout.wordSize.sectionBytes names < _ by omega) hpatches

theorem Layout.showsSection_build (h : layout.Fits names) {s : Segment}
    (hoffset : s.offset = layout.wordSize.sectionOffset names)
    (hsize : s.size = layout.wordSize.sectionBytes names) :
    layout.ShowsSection (layout.build names) s (layout.wordSize.sectionEntries names) := by
  have hat := layout.hasAt_build names
  simp only [imagePatches, List.forall_mem_append, List.forall_mem_cons] at hat
  obtain ⟨-, -, -, hentries⟩ := hat
  have hrows : Rows (layout.ShowsEntryOf (layout.build names) s.offset) 0
      (layout.wordSize.sectionEntries names ++ [⟨nullTag, 0⟩]) := by
    refine rows_of_hasAt (fun base e he => ?_) (by simpa [hoffset] using hentries)
    exact showsEntry_of_hasAt (h.entry_lt e he).1 (h.entry_lt e he).2
  have hcount : s.size / layout.wordSize.entryBytes =
      (layout.wordSize.sectionEntries names).length + 1 := by
    rw [hsize, WordSize.sectionBytes]
    exact Nat.mul_div_cancel _ (Nat.mul_pos Nat.two_pos layout.wordSize.bytes_pos)
  obtain ⟨hshown, hnull⟩ := rows_append.1 hrows
  refine ⟨by omega, hshown, ?_, fun _ => ⟨0, (rows_cons.1 hnull).1⟩⟩
  intro e he
  rcases WordSize.mem_sectionEntries.1 he with ⟨place, -, rfl⟩ | rfl | rfl
  · exact show 1 ≠ 0 by decide
  · exact show 5 ≠ 0 by decide
  · exact show 10 ≠ 0 by decide

theorem WordSize.valuesOf_sectionEntries (w : WordSize) (names : List String) :
    valuesOf neededTag (w.sectionEntries names) = placesFrom 1 names := by
  have hneeded : ∀ e ∈ (placesFrom 1 names).map (Entry.mk neededTag),
      decide (e.tag = neededTag) = true := by simp
  rw [valuesOf, sectionEntries, List.filter_append, List.filter_eq_self.2 hneeded]
  simp [neededTag, stringTableTag, stringSizeTag, Function.comp_def]

theorem WordSize.lastValue_stringTable (w : WordSize) (names : List String) :
    LastValue stringTableTag (w.sectionEntries names) (baseAddress + w.tableOffset) :=
  ⟨_, [⟨stringSizeTag, (stringTable names).length⟩], rfl,
    rfl, by simp [stringSizeTag, stringTableTag]⟩

theorem WordSize.lastValue_stringSize (w : WordSize) (names : List String) :
    LastValue stringSizeTag (w.sectionEntries names) (stringTable names).length :=
  ⟨_ ++ [⟨stringTableTag, baseAddress + w.tableOffset⟩],
    [], by rw [List.append_assoc]; rfl, rfl, by simp⟩

theorem Layout.lists_build (hnul : ∀ name ∈ names, '\x00' ∉ name.toList) (h : layout.Fits names) :
    Lists (LastValue stringSizeTag) (layout.build names) names := by
  have hat := layout.hasAt_build names
  simp only [imagePatches, List.forall_mem_append, List.forall_mem_cons] at hat
  obtain ⟨hheader, -, htable, -⟩ := hat
  have hsize : (layout.build names).size = layout.wordSize.imageBytes names := by simp [build]
  have hbound := layout.wordSize.pow_bytes_le
  have haddress := h.address
  have hle := layout.wordSize.le_sectionOffset names
  have hpos : 0 < (stringTable names).length := Nat.succ_pos _
  have hsection : layout.wordSize.sectionOffset names ≤ layout.wordSize.imageBytes names :=
    Nat.le_add_right _ _
  have hheaderBytes : 16 ≤ layout.wordSize.tableOffset := by cases layout.wordSize <;> decide
  have hmaps : (⟨loadable, 0, baseAddress, layout.wordSize.imageBytes names⟩ : Segment).Maps
      (baseAddress + layout.wordSize.tableOffset) := by
    refine ⟨rfl, Nat.le_add_right _ _, ?_⟩
    dsimp only
    omega
  refine ⟨layout, _, ⟨dynamic, _, _, _⟩, _,
    namedBy_of_hasAt (by omega) (hheader _ (List.mem_cons_self ..)),
    showsSegments_build h, ⟨[_], [], rfl, rfl, by simp [loadable, dynamic]⟩,
    showsSection_build h rfl rfl, .inr ?_⟩
  refine ⟨layout.wordSize.tableOffset, ⟨_, _, layout.wordSize.lastValue_stringTable names,
    ⟨[], _, rfl, hmaps, by simp⟩, ?_⟩, ?_⟩
  · dsimp only
    omega
  · rw [WordSize.valuesOf_sectionEntries]
    refine namesAt_placesFrom (hasAt_cons.1 htable).2 hnul fun size hlast => ?_
    have hlast' := lastOf?_eq_some_iff.2 (layout.wordSize.lastValue_stringSize names)
    rw [lastOf?_eq_some_iff.2 hlast, Option.some.injEq] at hlast'
    exact Nat.le_of_eq ((Nat.add_comm 1 _).trans hlast'.symm)

end

/-- The libraries that an image was built with are read of it: all of them, in order. -/
theorem neededLibraries_build (layout : Layout) (names : List String)
    (hnul : ∀ name ∈ names, '\x00' ∉ name.toList) (hfits : layout.Fits names) :
    neededLibraries (layout.build names) = .ok names := by
  have hsize : (layout.build names).size = layout.wordSize.imageBytes names := by
    simp [Layout.build]
  have hbound := Nat.lt_of_lt_of_le hfits.size layout.wordSize.pow_bytes_le
  exact (neededLibraries_eq_ok_iff_lists (by omega)).2 (Layout.lists_build hnul hfits)

/-- Two libraries of one name, one without a name, and one whose name is not ASCII. -/
theorem neededLibraries_build_big :
    let names := ["liba.so", "", "libé.so", "liba.so"]
    (∀ name ∈ names, '\x00' ∉ name.toList) ∧ Layout.Fits ⟨.bits32, .big⟩ names ∧
      neededLibraries (Layout.build ⟨.bits32, .big⟩ names) = .ok names := by
  intro names
  have hnul : ∀ name ∈ names, '\x00' ∉ name.toList := by decide
  have hfits : Layout.Fits ⟨.bits32, .big⟩ names := ⟨by decide, by decide⟩
  exact ⟨hnul, hfits, neededLibraries_build ⟨.bits32, .big⟩ names hnul hfits⟩

end PluginChain.Elf

import Mathlib.Algebra.Group.Nat.Defs
import Mathlib.Data.List.Forall2
import Mathlib.Data.List.Induction
import PluginChain.Elf.Needed
import PluginChain.Proofs.Steps

/-!
# What the bytes of an image say

The fields of an image described by where they stand, in exact arithmetic and without an order of
reading. Each reader succeeds exactly where the description holds: an offset that reached the bound
is past the end of every image, so that cutting it off there never turns it into the offset of
something else.

Main statements:
* `ByteOrder.read_eq_ok_iff`: a number is read if and only if its bytes are in the image.
* `Layout.segments_eq_ok_iff`, `Layout.entries_eq_ok_iff`: the two tables of an image.
* `namesAt_eq_ok_iff`: names are read if and only if each stands in the image up to a NUL.
-/

namespace PluginChain.Elf

variable {image : Image} {part : Part} {offset width n : Nat}

/-! ## Bytes -/

/-- The bytes of the image from `offset` on begin with `bytes`. -/
def HasAt (image : Image) (offset : Nat) (bytes : List UInt8) : Prop :=
  ∀ i, i < bytes.length → image[offset + i]? = bytes[i]?

instance (image : Image) (offset : Nat) (bytes : List UInt8) :
    Decidable (HasAt image offset bytes) :=
  inferInstanceAs (Decidable (∀ i, i < bytes.length → image[offset + i]? = bytes[i]?))

theorem HasAt.lt_size {bytes : List UInt8} (h : HasAt image offset bytes) {i : Nat}
    (hi : i < bytes.length) :
    offset + i < image.size := by
  have hbyte := h i hi
  rw [List.getElem?_eq_getElem hi] at hbyte
  exact (Array.getElem?_eq_some_iff.1 hbyte).1

@[simp] theorem hasAt_nil : HasAt image offset [] := by
  simp [HasAt]

theorem hasAt_append {a b : List UInt8} :
    HasAt image offset (a ++ b) ↔ HasAt image offset a ∧ HasAt image (offset + a.length) b := by
  constructor
  · intro h
    refine ⟨fun i hi => ?_, fun i hi => ?_⟩
    · rw [h i (by simp; omega), List.getElem?_append_left hi]
    · rw [Nat.add_assoc, h (a.length + i) (by simpa using hi),
        List.getElem?_append_right (by omega), Nat.add_sub_cancel_left]
  · rintro ⟨ha, hb⟩ i hi
    by_cases hlt : i < a.length
    · rw [ha i hlt, List.getElem?_append_left hlt]
    · have hrest := hb (i - a.length) (by rw [List.length_append] at hi; omega)
      rw [List.getElem?_append_right (by omega), ← hrest]
      congr 1
      omega

@[simp] theorem hasAt_singleton {b : UInt8} : HasAt image offset [b] ↔ image[offset]? = some b := by
  simp [HasAt]

theorem hasAt_cons {b : UInt8} {rest : List UInt8} :
    HasAt image offset (b :: rest) ↔ image[offset]? = some b ∧ HasAt image (offset + 1) rest := by
  rw [← List.singleton_append, hasAt_append, hasAt_singleton, List.length_singleton]

theorem hasAt_iff_extract {bytes : List UInt8} (hbytes : bytes ≠ []) :
    HasAt image offset bytes ↔ offset + bytes.length ≤ image.size ∧
      (image.extract offset (offset + bytes.length)).toList = bytes := by
  have hlength := List.length_pos_of_ne_nil hbytes
  constructor
  · intro h
    have hsize := h.lt_size (Nat.sub_lt hlength Nat.one_pos)
    refine ⟨by omega, List.ext_getElem? fun i => ?_⟩
    by_cases hi : i < bytes.length
    · rw [← h i hi, Array.getElem?_toList, Array.getElem?_extract, if_pos (by omega)]
    · rw [List.getElem?_eq_none (Nat.le_of_not_lt hi), List.getElem?_eq_none]
      simp
      omega
  · rintro ⟨hsize, hextract⟩ i hi
    rw [← hextract, Array.getElem?_toList, Array.getElem?_extract, if_pos (by omega)]

/-! ## Numbers -/

/-- The `width` bytes at `offset` are in the image and make the number `n`. -/
def ByteOrder.Shows (order : ByteOrder) (image : Image) (offset width n : Nat) : Prop :=
  ∃ bytes : List UInt8, bytes.length = width ∧ HasAt image offset bytes ∧ order.number bytes = n

theorem ByteOrder.Shows.le_size {order : ByteOrder} (h : order.Shows image offset width n)
    (hwidth : 0 < width) :
    offset + width ≤ image.size := by
  obtain ⟨bytes, rfl, hbytes, -⟩ := h
  exact ((hasAt_iff_extract (List.ne_nil_of_length_pos hwidth)).1 hbytes).1

theorem ByteOrder.read_eq_ok_iff {order : ByteOrder} (hwidth : 0 < width) :
    order.read image part offset width = .ok n ↔ order.Shows image offset width n := by
  unfold read
  constructor
  · intro h
    split at h
    · rename_i hsize
      have hlength : (image.extract offset (offset + width)).toList.length = width := by simp; omega
      refine ⟨_, hlength, ?_, Except.ok.inj h⟩
      rw [hasAt_iff_extract (List.ne_nil_of_length_pos (by omega)), hlength]
      exact ⟨hsize, rfl⟩
    · cases h
  · rintro ⟨bytes, rfl, hbytes, rfl⟩
    obtain ⟨hsize, hextract⟩ := (hasAt_iff_extract (List.ne_nil_of_length_pos hwidth)).1 hbytes
    rw [if_pos hsize, hextract]

/-- A sum that was cut off is past the end of the image, as the exact sum is. -/
theorem ByteOrder.read_saturatingAdd {order : ByteOrder} (hsize : image.size < offsetBound)
    (hwidth : 0 < width) (a b : Nat) :
    order.read image part (saturatingAdd a b) width = order.read image part (a + b) width := by
  by_cases h : a + b < offsetBound
  · rw [saturatingAdd, Nat.min_eq_left (by omega)]
  · unfold read saturatingAdd
    rw [if_neg (by omega), if_neg (by omega)]

/-- The address or offset at `offset` is `n`. -/
def Layout.ShowsWord (layout : Layout) (image : Image) (offset n : Nat) : Prop :=
  layout.order.Shows image offset layout.wordSize.bytes n

theorem WordSize.bytes_pos (w : WordSize) : 0 < w.bytes := by
  cases w <;> decide

theorem WordSize.pow_bytes_le (w : WordSize) : 256 ^ w.bytes ≤ offsetBound := by
  cases w <;> decide

theorem Layout.readWord_eq_ok_iff {layout : Layout} :
    layout.readWord image part offset = .ok n ↔ layout.ShowsWord image offset n :=
  ByteOrder.read_eq_ok_iff layout.wordSize.bytes_pos

theorem Layout.readWord_saturatingAdd {layout : Layout} (hsize : image.size < offsetBound)
    (a b : Nat) :
    layout.readWord image part (saturatingAdd a b) = layout.readWord image part (a + b) :=
  ByteOrder.read_saturatingAdd hsize layout.wordSize.bytes_pos a b

/-! ## The layout -/

/-- The byte that stands for a word size. -/
def WordSize.code : WordSize → UInt8
  | bits32 => 1
  | bits64 => 2

/-- The byte that stands for a byte order. -/
def ByteOrder.code : ByteOrder → UInt8
  | little => 1
  | big => 2

theorem WordSize.ofCode_eq_ok_iff {b : UInt8} {w : WordSize} : ofCode b = .ok w ↔ b = w.code := by
  unfold ofCode
  split
  · cases w <;> simp [code]
  · cases w <;> simp [code]
  · rename_i h1 h2
    cases w
    · simpa [code] using h1
    · simpa [code] using h2

theorem ByteOrder.ofCode_eq_ok_iff {b : UInt8} {o : ByteOrder} : ofCode b = .ok o ↔ b = o.code := by
  unfold ofCode
  split
  · cases o <;> simp [code]
  · cases o <;> simp [code]
  · rename_i h1 h2
    cases o
    · simpa [code] using h1
    · simpa [code] using h2

/-- The image is long enough for its first bytes, and these name the layout. -/
structure Layout.NamedBy (layout : Layout) (image : Image) : Prop where
  size : 16 ≤ image.size
  magic : HasAt image 0 magic
  wordSize : image[4]? = some layout.wordSize.code
  order : image[5]? = some layout.order.code

theorem Layout.ofImage_eq_ok_iff {layout : Layout} :
    Layout.ofImage image = .ok layout ↔ layout.NamedBy image := by
  obtain ⟨w, o⟩ := layout
  unfold Layout.ofImage
  have hmagic : HasAt image 0 magic ↔ 4 ≤ image.size ∧ (image.extract 0 4).toList = magic :=
    hasAt_iff_extract (by decide)
  split
  · rename_i h
    simp only [Bool.or_eq_true, decide_eq_true_eq, bne_iff_ne, ne_eq] at h
    refine ⟨by simp, fun hnamed => ?_⟩
    rcases h with h | h
    · exact absurd hnamed.size (by omega)
    · exact absurd (hmagic.1 hnamed.magic).2 h
  · rename_i h
    simp only [Bool.or_eq_true, decide_eq_true_eq, bne_iff_ne, ne_eq, not_or, Nat.not_lt,
      Decidable.not_not] at h
    have hbyte (i : Nat) (hi : i < 16) (b : UInt8) : image.getD i 0 = b ↔ image[i]? = some b := by
      rw [Array.getD_eq_getD_getElem?, Array.getElem?_eq_getElem (by omega)]
      simp
    simp only [bind_eq_ok_iff, WordSize.ofCode_eq_ok_iff, ByteOrder.ofCode_eq_ok_iff,
      hbyte 4 (by decide), hbyte 5 (by decide)]
    constructor
    · rintro ⟨w, hw, o, ho, ⟨⟩⟩
      exact ⟨h.1, hmagic.2 ⟨by omega, h.2⟩, hw, ho⟩
    · intro hnamed
      exact ⟨w, hnamed.wordSize, o, hnamed.order, rfl⟩

/-! ## Rows of a table -/

/-- The rows of a table from number `index` on are as `P` says of each number and row. -/
def Rows {α : Type} (P : Nat → α → Prop) (index : Nat) (rows : List α) : Prop :=
  ∀ i row, rows[i]? = some row → P (index + i) row

theorem rows_nil {α : Type} {P : Nat → α → Prop} {index : Nat} : Rows P index [] := by
  simp [Rows]

theorem rows_cons {α : Type} {P : Nat → α → Prop} {index : Nat} {row : α} {rest : List α} :
    Rows P index (row :: rest) ↔ P index row ∧ Rows P (index + 1) rest := by
  constructor
  · intro h
    refine ⟨h 0 row rfl, fun i r hr => ?_⟩
    rw [Nat.add_assoc, Nat.add_comm 1 i]
    exact h (i + 1) r hr
  · rintro ⟨hrow, hrest⟩ i r hr
    cases i with
    | zero =>
      obtain rfl := Option.some.inj hr
      exact hrow
    | succ i =>
      have hnext := hrest i r hr
      rwa [Nat.add_assoc, Nat.add_comm 1 i] at hnext

theorem rows_append {α : Type} {P : Nat → α → Prop} {index : Nat} {a b : List α} :
    Rows P index (a ++ b) ↔ Rows P index a ∧ Rows P (index + a.length) b := by
  induction a generalizing index with
  | nil => simp [rows_nil]
  | cons row rest ih =>
    rw [List.cons_append, rows_cons, rows_cons, ih, and_assoc, List.length_cons, Nat.add_assoc,
      Nat.add_comm 1 rest.length]

/-! ## Segments -/

/-- The header of the image says where the table of program headers stands. -/
structure Layout.ShowsTable (layout : Layout) (image : Image) (table : HeaderTable) : Prop where
  start : layout.ShowsWord image layout.wordSize.headerFields.1 table.start
  entrySize : layout.order.Shows image layout.wordSize.headerFields.2.1 2 table.entrySize
  count : layout.order.Shows image layout.wordSize.headerFields.2.2 2 table.count

theorem Layout.headerTable_eq_ok_iff {layout : Layout} {table : HeaderTable} :
    layout.headerTable image = .ok table ↔ layout.ShowsTable image table := by
  unfold Layout.headerTable
  simp only [bind_eq_ok_iff, readWord_eq_ok_iff, ByteOrder.read_eq_ok_iff Nat.two_pos]
  constructor
  · rintro ⟨start, hstart, entrySize, hentrySize, count, hcount, ⟨⟩⟩
    exact ⟨hstart, hentrySize, hcount⟩
  · rintro ⟨hstart, hentrySize, hcount⟩
    exact ⟨_, hstart, _, hentrySize, _, hcount, rfl⟩

/-- The program header at `base` describes the segment. -/
structure Layout.ShowsSegment (layout : Layout) (image : Image) (base : Nat)
    (s : Segment) : Prop where
  kind : layout.order.Shows image base 4 s.kind
  offset : layout.ShowsWord image (base + layout.wordSize.segmentFields.1) s.offset
  address : layout.ShowsWord image (base + layout.wordSize.segmentFields.2.1) s.address
  size : layout.ShowsWord image (base + layout.wordSize.segmentFields.2.2) s.size

theorem Layout.segmentAt_eq_ok_iff {layout : Layout} {base : Nat} {s : Segment}
    (hsize : image.size < offsetBound) :
    layout.segmentAt image base = .ok s ↔ layout.ShowsSegment image base s := by
  unfold Layout.segmentAt
  simp only [bind_eq_ok_iff, readWord_saturatingAdd hsize, readWord_eq_ok_iff,
    ByteOrder.read_eq_ok_iff (show 0 < 4 by decide)]
  constructor
  · rintro ⟨kind, hkind, offset, hoffset, address, haddress, size, hsize, ⟨⟩⟩
    exact ⟨hkind, hoffset, haddress, hsize⟩
  · rintro ⟨hkind, hoffset, haddress, hsize⟩
    exact ⟨_, hkind, _, hoffset, _, haddress, _, hsize, rfl⟩

/-- Row `i` of the table of program headers describes the segment. -/
def Layout.ShowsRow (layout : Layout) (image : Image) (table : HeaderTable) (i : Nat)
    (s : Segment) : Prop :=
  layout.ShowsSegment image (table.start + i * table.entrySize) s

theorem Layout.segmentsFrom_eq_ok_iff {layout : Layout} {table : HeaderTable} {index count : Nat}
    {segments : List Segment} (hsize : image.size < offsetBound) :
    layout.segmentsFrom image table index count = .ok segments ↔
      segments.length = count ∧ Rows (layout.ShowsRow image table) index segments := by
  induction count generalizing index segments with
  | zero =>
    rw [segmentsFrom, Except.ok.injEq, List.length_eq_zero_iff]
    constructor
    · rintro rfl
      exact ⟨rfl, rows_nil⟩
    · rintro ⟨rfl, -⟩
      rfl
  | succ count ih =>
    rw [segmentsFrom]
    constructor
    · intro h
      split at h
      · cases h
      · rename_i base hbase
        obtain ⟨s, hs, h⟩ := bind_eq_ok_iff.1 h
        obtain ⟨rest, hrest, ⟨⟩⟩ := bind_eq_ok_iff.1 h
        obtain ⟨hlength, hrows⟩ := ih.1 hrest
        obtain ⟨-, ⟨⟩⟩ := Option.ite_none_right_eq_some.1 hbase
        exact ⟨by rw [List.length_cons, hlength],
          rows_cons.2 ⟨(segmentAt_eq_ok_iff hsize).1 hs, hrows⟩⟩
    · rintro ⟨hlength, hrows⟩
      obtain _ | ⟨s, rest⟩ := segments
      · cases hlength
      obtain ⟨hs, hrest⟩ := rows_cons.1 hrows
      have hbase := hs.kind.le_size (by decide)
      rw [checkedAdd, if_pos (by omega)]
      have hrest' := ih.2 ⟨Nat.succ.inj hlength, hrest⟩
      exact bind_eq_ok_iff.2
        ⟨s, (segmentAt_eq_ok_iff hsize).2 hs, bind_eq_ok_iff.2 ⟨rest, hrest', rfl⟩⟩

/-- The program headers describe the segments, all of them and in order. -/
def Layout.ShowsSegments (layout : Layout) (image : Image) (segments : List Segment) : Prop :=
  ∃ table, layout.ShowsTable image table ∧ segments.length = table.count ∧
    Rows (layout.ShowsRow image table) 0 segments

theorem Layout.segments_eq_ok_iff {layout : Layout} {segments : List Segment}
    (hsize : image.size < offsetBound) :
    layout.segments image = .ok segments ↔ layout.ShowsSegments image segments := by
  unfold Layout.segments
  simp only [bind_eq_ok_iff, headerTable_eq_ok_iff, segmentsFrom_eq_ok_iff hsize]
  rfl

/-! ## The dynamic section -/

/-- The entry stands at `offset`. -/
structure Layout.ShowsEntry (layout : Layout) (image : Image) (offset : Nat)
    (e : Entry) : Prop where
  tag : layout.ShowsWord image offset e.tag
  value : layout.ShowsWord image (offset + layout.wordSize.bytes) e.value

theorem Layout.entryAt_eq_ok_iff {layout : Layout} {e : Entry} (hsize : image.size < offsetBound) :
    layout.entryAt image offset = .ok e ↔ layout.ShowsEntry image offset e := by
  unfold Layout.entryAt
  simp only [bind_eq_ok_iff, readWord_saturatingAdd hsize, readWord_eq_ok_iff]
  constructor
  · rintro ⟨tag, htag, value, hvalue, ⟨⟩⟩
    exact ⟨htag, hvalue⟩
  · rintro ⟨htag, hvalue⟩
    exact ⟨_, htag, _, hvalue, rfl⟩

theorem saturatingAdd_saturatingAdd (a b c : Nat) :
    saturatingAdd (saturatingAdd a b) c = saturatingAdd (a + b) c := by
  unfold saturatingAdd
  omega

theorem Layout.entryAt_saturatingAdd {layout : Layout} (hsize : image.size < offsetBound)
    (a b : Nat) :
    layout.entryAt image (saturatingAdd a b) = layout.entryAt image (a + b) := by
  unfold Layout.entryAt
  rw [readWord_saturatingAdd hsize, saturatingAdd_saturatingAdd]

/-- Entry `i` of the section that begins at `start`. -/
def Layout.ShowsEntryOf (layout : Layout) (image : Image) (start i : Nat) (e : Entry) : Prop :=
  layout.ShowsEntry image (start + i * layout.wordSize.entryBytes) e

/-- From entry number `index` on the section holds `entries`, and then it ends: at a null entry, or
    because it has no more than `count` entries from there on. -/
structure Layout.ShowsEntries (layout : Layout) (image : Image) (start index count : Nat)
    (entries : List Entry) :
    Prop where
  length : entries.length ≤ count
  shown : Rows (layout.ShowsEntryOf image start) index entries
  notNull : ∀ e ∈ entries, e.tag ≠ nullTag
  ended : entries.length < count → ∃ value,
    layout.ShowsEntryOf image start (index + entries.length) ⟨nullTag, value⟩

theorem Layout.entriesFrom_eq_ok_iff {layout : Layout} {start index count : Nat}
    {entries : List Entry} (hsize : image.size < offsetBound) :
    layout.entriesFrom image start index count = .ok entries ↔
      layout.ShowsEntries image start index count entries := by
  induction count generalizing index entries with
  | zero =>
    rw [entriesFrom, Except.ok.injEq]
    constructor
    · rintro rfl
      exact ⟨Nat.le_refl 0, rows_nil, by simp, by simp⟩
    · intro h
      exact (List.eq_nil_of_length_eq_zero (Nat.le_zero.1 h.length)).symm
  | succ count ih =>
    rw [entriesFrom, entryAt_saturatingAdd hsize]
    constructor
    · intro h
      obtain ⟨e, he, h⟩ := bind_eq_ok_iff.1 h
      rw [entryAt_eq_ok_iff hsize] at he
      split at h
      · rename_i htag
        cases h
        exact ⟨Nat.zero_le _, rows_nil, by simp, fun _ => ⟨e.value, htag ▸ he⟩⟩
      · rename_i htag
        obtain ⟨rest, hrest, ⟨⟩⟩ := bind_eq_ok_iff.1 h
        have hrest := ih.1 hrest
        refine ⟨Nat.succ_le_succ hrest.length, rows_cons.2 ⟨he, hrest.shown⟩, ?_, fun hlt => ?_⟩
        · exact List.forall_mem_cons.2 ⟨htag, hrest.notNull⟩
        · rw [List.length_cons, Nat.add_comm rest.length, ← Nat.add_assoc]
          exact hrest.ended (Nat.lt_of_succ_lt_succ hlt)
    · intro h
      obtain _ | ⟨e, rest⟩ := entries
      · obtain ⟨value, hnull⟩ := h.ended (Nat.succ_pos count)
        exact bind_eq_ok_iff.2 ⟨_, (entryAt_eq_ok_iff hsize).2 hnull, rfl⟩
      · obtain ⟨he, hshown⟩ := rows_cons.1 h.shown
        obtain ⟨htag, hnotNull⟩ := List.forall_mem_cons.1 h.notNull
        have hrest : layout.ShowsEntries image start (index + 1) count rest := by
          refine ⟨Nat.le_of_succ_le_succ h.length, hshown, hnotNull, fun hlt => ?_⟩
          obtain ⟨value, hnull⟩ := h.ended (Nat.succ_lt_succ hlt)
          rw [List.length_cons, Nat.add_comm rest.length, ← Nat.add_assoc] at hnull
          exact ⟨value, hnull⟩
        refine bind_eq_ok_iff.2 ⟨e, (entryAt_eq_ok_iff hsize).2 he, ?_⟩
        rw [if_neg htag]
        exact bind_eq_ok_iff.2 ⟨rest, ih.2 hrest, rfl⟩

/-- The dynamic section in a segment holds `entries` before its end. -/
def Layout.ShowsSection (layout : Layout) (image : Image) (segment : Segment)
    (entries : List Entry) : Prop :=
  layout.ShowsEntries image segment.offset 0 (segment.size / layout.wordSize.entryBytes) entries

theorem Layout.entries_eq_ok_iff {layout : Layout} {segment : Segment} {entries : List Entry}
    (hsize : image.size < offsetBound) :
    layout.entries image segment = .ok entries ↔ layout.ShowsSection image segment entries :=
  entriesFrom_eq_ok_iff hsize

/-! ## Names -/

theorem nulFrom_eq_some_iff {count stop : Nat} :
    nulFrom image offset count = some stop ↔
      ∃ bytes : List UInt8, stop = offset + bytes.length ∧ bytes.length < count ∧ 0 ∉ bytes ∧
        HasAt image offset (bytes ++ [0]) := by
  induction count generalizing offset with
  | zero => simp [nulFrom]
  | succ count ih =>
    rw [nulFrom]
    constructor
    · intro h
      split at h
      · cases h
      · rename_i b hb
        split at h
        · rename_i hzero
          cases h
          exact ⟨[], rfl, Nat.succ_pos count, by simp, by simpa [hzero] using hb⟩
        · rename_i hzero
          obtain ⟨bytes, rfl, hcount, hbytes, hat⟩ := ih.1 h
          refine ⟨b ::
            bytes, by simp; omega, by simpa using hcount, by simp [hbytes, Ne.symm hzero], ?_⟩
          rw [List.cons_append, hasAt_cons]
          exact ⟨hb, hat⟩
    · rintro ⟨bytes, rfl, hcount, hbytes, hat⟩
      obtain _ | ⟨b, bytes⟩ := bytes
      · rw [List.nil_append, hasAt_singleton] at hat
        simp [hat]
      · rw [List.cons_append, hasAt_cons] at hat
        obtain ⟨hzero, hbytes⟩ := not_or.1 (List.mem_cons.not.1 hbytes)
        have hstop : offset + (b :: bytes).length = offset + 1 + bytes.length := by simp; omega
        have hrest := ih.2 ⟨bytes, hstop, Nat.lt_of_succ_lt_succ hcount, hbytes, hat.2⟩
        simpa only [hat.1, if_neg (Ne.symm hzero)] using hrest

/-- The name stands in the image from `offset` on, in UTF-8, and the first NUL from there on ends
    it. -/
structure NameAt (image : Image) (offset : Nat) (name : String) : Prop where
  bytes : HasAt image offset (Text.Utf8.encode name ++ [0])
  noNul : 0 ∉ Text.Utf8.encode name

theorem NameAt.lt_size {name : String} (h : NameAt image offset name) :
    offset + (Text.Utf8.encode name).length < image.size :=
  h.bytes.lt_size (by simp)

theorem HasAt.extract_init {bytes : List UInt8} {b : UInt8}
    (h : HasAt image offset (bytes ++ [b])) :
    (image.extract offset (offset + bytes.length)).toList = bytes := by
  obtain _ | ⟨c, rest⟩ := bytes
  · simp
  · exact ((hasAt_iff_extract (List.cons_ne_nil c rest)).1 (hasAt_append.1 h).1).2

/-- A name is read if it ends in the image, and before the limit if there is one. -/
theorem textAt_eq_ok_iff {limit : Option Nat} {name : String} :
    textAt image offset limit = .ok name ↔
      NameAt image offset name ∧ ∀ n ∈ limit, (Text.Utf8.encode name).length < n := by
  unfold textAt
  extract_lets window
  have hwindow (k : Nat) : k < window ↔ offset + k < image.size ∧ ∀ n ∈ limit, k < n := by
    cases limit <;> simp [window] <;> omega
  constructor
  · intro h
    split at h
    · cases h
    split at h
    · cases h
    rename_i stop hstop
    obtain ⟨bytes, rfl, hcount, hzero, hat⟩ := nulFrom_eq_some_iff.1 hstop
    rw [hat.extract_init] at h
    split at h
    · rename_i decoded hdecoded
      cases h
      obtain rfl := Text.Utf8.decode?_eq_some_iff.1 hdecoded
      exact ⟨⟨hat, hzero⟩, ((hwindow _).1 hcount).2⟩
    · cases h
  · rintro ⟨hname, hlimit⟩
    have hsize := hname.lt_size
    have hstop : nulFrom image offset window = some (offset + (Text.Utf8.encode name).length) :=
      nulFrom_eq_some_iff.2 ⟨_, rfl, (hwindow _).2 ⟨hsize, hlimit⟩, hname.noNul, hname.bytes⟩
    rw [if_neg (by omega), hstop]
    simp only [hname.bytes.extract_init, Text.Utf8.decode?_encode]

theorem nameAt_eq_ok_iff {table place : Nat} {tableSize : Option Nat} {name : String}
    (hsize : image.size < offsetBound) :
    nameAt image table tableSize place = .ok name ↔
      NameAt image (table + place) name ∧ ∀ size ∈ tableSize,
        place + (Text.Utf8.encode name).length < size := by
  unfold nameAt checkedAdd
  by_cases h : table + place < offsetBound
  · rw [if_pos h, textAt_eq_ok_iff]
    refine and_congr_right fun _ => ?_
    cases tableSize with
    | none => simp
    | some size => simp; omega
  · rw [if_neg h]
    refine ⟨fun h => (by cases h), fun hname => ?_⟩
    have := hname.1.lt_size
    omega

/-- The names stand at their places in the string table at `table`, and each ends inside the table
    wherever `Size` gives the table a size. -/
def NamesAt (image : Image) (table : Nat) (Size : Nat → Prop) (places : List Nat)
    (names : List String) : Prop :=
  List.Forall₂ (fun place name => NameAt image (table + place) name ∧
    ∀ size, Size size → place + (Text.Utf8.encode name).length < size) places names

theorem namesAt_eq_ok_iff {table : Nat} {tableSize : Option Nat} {places : List Nat}
    {names : List String} (hsize : image.size < offsetBound) :
    namesAt image table tableSize places = .ok names ↔
      NamesAt image table (· ∈ tableSize) places names := by
  unfold NamesAt
  induction places generalizing names with
  | nil =>
    rw [namesAt, Except.ok.injEq, List.forall₂_nil_left_iff]
    exact eq_comm
  | cons place rest ih =>
    rw [namesAt, List.forall₂_cons_left_iff]
    simp only [bind_eq_ok_iff, nameAt_eq_ok_iff hsize, ih]
    constructor
    · rintro ⟨name, hname, names, hnames, ⟨⟩⟩
      exact ⟨name, names, hname, hnames, rfl⟩
    · rintro ⟨name, names, hname, hnames, rfl⟩
      exact ⟨name, hname, names, hnames, rfl⟩

end PluginChain.Elf

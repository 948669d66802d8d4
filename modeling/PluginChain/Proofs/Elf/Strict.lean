import PluginChain.Proofs.Elf.Acceptance

/-!
# Reading an image with words of 64 bits

Most offsets are computed with care for the greatest one. Three operations are not: the two products
of a row's number and the size of a row, and the difference of two addresses. Nor is it asked
everywhere whether a list of bytes is as long as the part that is taken of it. A strict run is stuck
where such an operation has no result. Whatever the bytes of an image are, reading it strictly is
reading it: a guard or the bound of a loop stands before each of these operations.

Main statements:
* `Strict.segmentsFrom_eq`, `Strict.entriesFrom_eq`: the numbers that are read bound the products.
* `Strict.textAt_eq`: what is taken of the string table is there.
* `Strict.neededLibraries_eq`: a strict run is never stuck.
-/

namespace PluginChain.Elf

variable {image : Image}

/-! ## Numbers of a width -/

theorem ofLittle_lt (bytes : List UInt8) : ofLittle bytes < 256 ^ bytes.length := by
  induction bytes with
  | nil => decide
  | cons b rest ih =>
    have hb := b.toNat_lt
    rw [ofLittle, List.length_cons, Nat.pow_succ]
    omega

theorem ByteOrder.number_lt (order : ByteOrder) (bytes : List UInt8) :
    order.number bytes < 256 ^ bytes.length := by
  cases order with
  | little => exact ofLittle_lt bytes
  | big => simpa [number] using ofLittle_lt bytes.reverse

theorem ByteOrder.Shows.lt {order : ByteOrder} {offset width n : Nat}
    (h : order.Shows image offset width n) :
    n < 256 ^ width := by
  obtain ⟨bytes, rfl, -, rfl⟩ := h
  exact order.number_lt bytes

theorem Layout.ShowsWord.lt {layout : Layout} {offset n : Nat}
    (h : layout.ShowsWord image offset n) :
    n < offsetBound :=
  Nat.lt_of_lt_of_le (ByteOrder.Shows.lt h) layout.wordSize.pow_bytes_le

/-- No segment is larger than the greatest offset, be it in the image or not. -/
theorem Layout.size_lt_of_segmentAt {layout : Layout} {base : Nat} {s : Segment}
    (h : layout.segmentAt image base = .ok s) : s.size < offsetBound := by
  unfold segmentAt at h
  simp only [bind_eq_ok_iff, readWord_eq_ok_iff] at h
  obtain ⟨_, -, _, -, _, -, size, hsize, ⟨⟩⟩ := h
  exact hsize.lt

theorem Layout.size_lt_of_segmentsFrom {layout : Layout} {table : HeaderTable} {index count : Nat}
    {segments : List Segment} (h : layout.segmentsFrom image table index count = .ok segments) :
    ∀ s ∈ segments, s.size < offsetBound := by
  induction count generalizing index segments with
  | zero =>
    cases h
    exact fun s hs => absurd hs List.not_mem_nil
  | succ count ih =>
    rw [segmentsFrom] at h
    split at h
    · cases h
    · obtain ⟨s, hs, h⟩ := bind_eq_ok_iff.1 h
      obtain ⟨rest, hrest, ⟨⟩⟩ := bind_eq_ok_iff.1 h
      exact List.forall_mem_cons.2 ⟨size_lt_of_segmentAt hs, ih hrest⟩

theorem Layout.size_lt_of_segments {layout : Layout} {segments : List Segment}
    (h : layout.segments image = .ok segments) : ∀ s ∈ segments, s.size < offsetBound := by
  obtain ⟨table, -, hsegments⟩ := bind_eq_ok_iff.1 h
  exact size_lt_of_segmentsFrom hsegments

/-! ## Strict runs -/

/-- A run on a machine with words of 64 bits: it comes to a result, or it is stuck in an operation
    that has none. -/
abbrev Strict (α : Type) := ExceptT Error Option α

namespace Strict

variable {α β : Type}

def stuck : Strict α := ExceptT.mk none

/-- A step that asks before each operation whether it has a result, so that it is not stuck. -/
def checked (x : Except Error α) : Strict α := ExceptT.mk (some x)

/-- The product of two numbers as a word. -/
def product (a b : Nat) : Strict Nat := if a * b < offsetBound then pure (a * b) else stuck

/-- The difference of two words as a word. -/
def difference (a b : Nat) : Strict Nat := if b ≤ a then pure (a - b) else stuck

/-- The first `count` bytes of a list. -/
def firstOf (bytes : List UInt8) (count : Nat) : Strict (List UInt8) :=
  if count ≤ bytes.length then pure (bytes.take count) else stuck

/-- Byte number `i` of the image. -/
def byteAt (image : Image) (i : Nat) : Strict UInt8 :=
  match image[i]? with
  | some b => pure b
  | none => stuck

/-! ### Reading strictly

Each reader is the one of the same name with the operations of the machine. -/

def ofImage (image : Image) : Strict Layout :=
  if image.size < 16 then throw .notElf
  else do
    if (← firstOf image.toList 4) != magic then throw .notElf
    else
      let wordSize ← checked (WordSize.ofCode (← byteAt image 4))
      let order ← checked (ByteOrder.ofCode (← byteAt image 5))
      return { wordSize, order }

def segmentsFrom (layout : Layout) (image : Image) (table : HeaderTable) (index : Nat) :
    (count : Nat) → Strict (List Segment)
  | 0 => return []
  | count + 1 => do
    match checkedAdd table.start (← product index table.entrySize) with
    | none => throw (.truncated .programHeaders)
    | some base =>
      let segment ← checked (layout.segmentAt image base)
      let rest ← segmentsFrom layout image table (index + 1) count
      return segment :: rest

def segments (layout : Layout) (image : Image) : Strict (List Segment) := do
  let table ← checked (layout.headerTable image)
  segmentsFrom layout image table 0 table.count

def entriesFrom (layout : Layout) (image : Image) (start index : Nat) :
    (count : Nat) → Strict (List Entry)
  | 0 => return []
  | count + 1 => do
    let before ← product index layout.wordSize.entryBytes
    let entry ← checked (layout.entryAt image (saturatingAdd start before))
    if entry.tag = nullTag then return []
    else
      let rest ← entriesFrom layout image start (index + 1) count
      return entry :: rest

def offsetOf? (segments : List Segment) (address : Nat) : Strict (Option Nat) :=
  match (segments.filter fun s => s.kind = loadable).find? fun s => s.holds address with
  | none => return none
  | some s => return checkedAdd s.offset (← difference address s.address)

/-- The bytes among which a NUL is searched. -/
def window (bytes : List UInt8) : Option Nat → Strict (List UInt8)
  | some limit => if limit < bytes.length then firstOf bytes limit else return bytes
  | none => return bytes

def textAt (image : Image) (offset : Nat) (limit : Option Nat) : Strict String :=
  if image.size < offset then throw (.truncated .stringTable)
  else do
    let bytes ← window (image.toList.drop offset) limit
    match bytes.findIdx? (· == 0) with
    | none => throw (.truncated .stringTable)
    | some stop =>
      match Text.Utf8.decode? (← firstOf bytes stop) with
      | some name => return name
      | none => throw .invalidName

def nameAt (image : Image) (table : Nat) (tableSize : Option Nat) (place : Nat) : Strict String :=
  match checkedAdd table place with
  | none => throw (.truncated .stringTable)
  | some offset => textAt image offset (tableSize.map fun size => size - place)

def namesAt (image : Image) (table : Nat) (tableSize : Option Nat) : List Nat → Strict (List String)
  | [] => return []
  | place :: rest => do
    let name ← nameAt image table tableSize place
    let names ← namesAt image table tableSize rest
    return name :: names

def neededOf (image : Image) (segments : List Segment) (entries : List Entry) :
    Strict (List String) :=
  match valuesOf neededTag entries with
  | [] => return []
  | place :: places =>
    match lastOf? stringTableTag entries with
    | none => throw .noStringTable
    | some address => do
      match ← offsetOf? segments address with
      | none => throw (.unmappedStringTable address)
      | some table => namesAt image table (lastOf? stringSizeTag entries) (place :: places)

def neededLibraries (image : Image) : Strict (List String) := do
  let layout ← ofImage image
  let segments ← segments layout image
  match segments.find? fun s => s.kind = dynamic with
  | none => throw .noDynamicSegment
  | some segment =>
    let entries ←
      entriesFrom layout image segment.offset 0 (segment.size / layout.wordSize.entryBytes)
    neededOf image segments entries

/-! ### No run is stuck -/

/-- Steps that are not stuck make runs that are not stuck; the second step may rely on what the
    first one has read. -/
theorem bind_eq_checked {x : Strict α} {y : Except Error α} {f : α → Strict β}
    {g : α → Except Error β} (hx : x = checked y) (hf : ∀ a, y = .ok a → f a = checked (g a)) :
    x >>= f = checked (y >>= g) := by
  subst hx
  cases y with
  | error e => rfl
  | ok a => exact hf a rfl

@[simp] theorem checked_ok_bind (a : α) (f : α → Strict β) : checked (.ok a) >>= f = f a := rfl

theorem product_eq {a b : Nat} (h : a * b < offsetBound) :
    product a b = checked (.ok (a * b)) := if_pos h

theorem difference_eq {a b : Nat} (h : b ≤ a) : difference a b = checked (.ok (a - b)) := if_pos h

theorem firstOf_eq {bytes : List UInt8} {count : Nat} (h : count ≤ bytes.length) :
    firstOf bytes count = checked (.ok (bytes.take count)) := if_pos h

theorem byteAt_eq {i : Nat} (h : i < image.size) :
    byteAt image i = checked (.ok (image.getD i 0)) := by
  rw [byteAt, Array.getD_eq_getD_getElem?, Array.getElem?_eq_getElem h]
  rfl

theorem ofImage_eq (image : Image) : ofImage image = checked (Layout.ofImage image) := by
  unfold ofImage Layout.ofImage
  by_cases hsize : image.size < 16
  · simp only [hsize, if_true, decide_true, Bool.true_or]
    rfl
  · have hfirst : (image.extract 0 4).toList = image.toList.take 4 := by simp
    rw [if_neg hsize, firstOf_eq (by rw [Array.length_toList]; omega), checked_ok_bind, hfirst,
      decide_eq_false hsize, Bool.false_or]
    split
    · rfl
    · rw [byteAt_eq (by omega), byteAt_eq (by omega)]
      exact bind_eq_checked rfl fun _ _ => bind_eq_checked rfl fun _ _ => rfl

variable {layout : Layout}

/-- A number of rows and the size of a row have 16 bits each. -/
theorem segmentsFrom_eq {table : HeaderTable} (hentrySize : table.entrySize < 256 ^ 2)
    {index count : Nat} (hcount : index + count < 256 ^ 2) :
    segmentsFrom layout image table index count =
      checked (layout.segmentsFrom image table index count) := by
  induction count generalizing index with
  | zero => rfl
  | succ count ih =>
    have hproduct : index * table.entrySize ≤ 256 ^ 2 * 256 ^ 2 :=
      Nat.mul_le_mul (by omega) (by omega)
    rw [segmentsFrom, Layout.segmentsFrom,
      product_eq (Nat.lt_of_le_of_lt hproduct (by decide)), checked_ok_bind]
    cases checkedAdd table.start (index * table.entrySize) with
    | none => rfl
    | some base =>
      exact bind_eq_checked rfl fun _ _ => bind_eq_checked (ih (by omega)) fun _ _ => rfl

theorem segments_eq : segments layout image = checked (layout.segments image) := by
  refine bind_eq_checked rfl fun table htable => ?_
  have hshown := Layout.headerTable_eq_ok_iff.1 htable
  exact segmentsFrom_eq hshown.entrySize.lt (by simpa using hshown.count.lt)

/-- The entries of a section do not take more bytes than the section has. -/
theorem entriesFrom_eq {start size index count : Nat} (hsize : size < offsetBound)
    (hcount : index + count ≤ size / layout.wordSize.entryBytes) :
    entriesFrom layout image start index count =
      checked (layout.entriesFrom image start index count) := by
  induction count generalizing index with
  | zero => rfl
  | succ count ih =>
    have hproduct : index * layout.wordSize.entryBytes ≤ size :=
      Nat.le_trans (Nat.mul_le_mul_right _ (by omega)) (Nat.div_mul_le_self ..)
    rw [entriesFrom, Layout.entriesFrom, product_eq (by omega), checked_ok_bind]
    refine bind_eq_checked rfl fun entry _ => ?_
    split
    · rfl
    · exact bind_eq_checked (ih (by omega)) fun _ _ => rfl

/-- A segment that holds an address does not begin after it. -/
theorem offsetOf?_eq (segments : List Segment) (address : Nat) :
    offsetOf? segments address = checked (.ok (Elf.offsetOf? segments address)) := by
  unfold offsetOf? Elf.offsetOf?
  split
  · rename_i hnone
    rw [hnone]
    rfl
  · rename_i s hfound
    have hholds := List.find?_some hfound
    have hle : s.address ≤ address := by
      simpa [Segment.holds] using (Bool.and_eq_true_iff.1 hholds).1
    rw [hfound, difference_eq hle]
    rfl

theorem window_eq (bytes : List UInt8) (limit : Option Nat) :
    window bytes limit = checked (.ok (bytes.take (limit.getD bytes.length))) := by
  cases limit with
  | none =>
    rw [Option.getD_none, List.take_length]
    rfl
  | some n =>
    rw [window, Option.getD_some]
    split
    · exact firstOf_eq (by omega)
    · rw [List.take_of_length_le (by omega)]
      rfl

/-- The first NUL is searched from byte to byte. -/
theorem nulFrom_eq (image : Image) (offset count : Nat) :
    nulFrom image offset count = (((image.toList.drop offset).take count).findIdx? (· == 0)).map
      (offset + ·) := by
  induction count generalizing offset with
  | zero => simp [nulFrom]
  | succ count ih =>
    rw [nulFrom]
    by_cases hoffset : offset < image.size
    · rw [Array.getElem?_eq_getElem hoffset, List.drop_eq_getElem_cons (by simpa using hoffset),
        List.take_succ_cons, List.findIdx?_cons]
      by_cases hzero : image[offset] = 0
      · simp [hzero]
      · simp [hzero, ih, Function.comp_def, Nat.add_assoc, Nat.add_comm 1]
    · rw [Array.getElem?_eq_none (by omega), List.drop_eq_nil_of_le (by simpa using hoffset)]
      rfl

/-- The place of a NUL is among the bytes that were searched. -/
theorem textAt_eq (image : Image) (offset : Nat) (limit : Option Nat) :
    textAt image offset limit = checked (Elf.textAt image offset limit) := by
  unfold textAt Elf.textAt
  split
  · rfl
  · extract_lets count
    have hlength : (image.toList.drop offset).length = image.size - offset := by simp
    have hextract (stop : Nat) :
        (image.extract offset (offset + stop)).toList =
          (image.toList.drop offset).take stop := by simp
    simp only [nulFrom_eq, window_eq, checked_ok_bind]
    generalize image.toList.drop offset = tail at hlength hextract
    have hcount : tail.take count = tail.take (limit.getD tail.length) := by
      cases limit with
      | none => simp [count, hlength]
      | some n => simp [count, ← hlength, ← List.take_eq_take_min]
    rw [← hcount]
    cases hstop : (tail.take count).findIdx? (· == 0) with
    | none => rfl
    | some stop =>
      obtain ⟨hlt, -⟩ := List.findIdx?_eq_some_iff_getElem.1 hstop
      have htake : (tail.take count).take stop = tail.take stop := by
        rw [List.length_take] at hlt
        rw [List.take_take, Nat.min_eq_left (by omega)]
      simp only [Option.map_some, firstOf_eq (Nat.le_of_lt hlt), checked_ok_bind, htake, hextract]
      cases Text.Utf8.decode? (tail.take stop) <;> rfl

theorem nameAt_eq (image : Image) (table : Nat) (tableSize : Option Nat) (place : Nat) :
    nameAt image table tableSize place = checked (Elf.nameAt image table tableSize place) := by
  unfold nameAt Elf.nameAt
  cases checkedAdd table place with
  | none => rfl
  | some offset => exact textAt_eq ..

theorem namesAt_eq (image : Image) (table : Nat) (tableSize : Option Nat) (places : List Nat) :
    namesAt image table tableSize places = checked (Elf.namesAt image table tableSize places) := by
  induction places with
  | nil => rfl
  | cons place rest ih =>
    exact bind_eq_checked (nameAt_eq ..) fun _ _ => bind_eq_checked ih fun _ _ => rfl

theorem neededOf_eq (image : Image) (segments : List Segment) (entries : List Entry) :
    neededOf image segments entries = checked (Elf.neededOf image segments entries) := by
  unfold neededOf Elf.neededOf
  cases valuesOf neededTag entries with
  | nil => rfl
  | cons place places =>
    cases lastOf? stringTableTag entries with
    | none => rfl
    | some address =>
      dsimp only
      rw [offsetOf?_eq, checked_ok_bind]
      cases Elf.offsetOf? segments address with
      | none => rfl
      | some table => exact namesAt_eq ..

/-- A strict run is never stuck, whatever the bytes of the image are, and comes to the same
    result. -/
theorem neededLibraries_eq (image : Image) :
    neededLibraries image = checked (Elf.neededLibraries image) := by
  refine bind_eq_checked (ofImage_eq image) fun layout _ =>
    bind_eq_checked segments_eq fun segments hsegments => ?_
  cases hsegment : segments.find? fun s => s.kind = dynamic with
  | none => rfl
  | some segment =>
    have hsize := Layout.size_lt_of_segments hsegments segment (List.mem_of_find?_eq_some hsegment)
    exact bind_eq_checked (entriesFrom_eq hsize (by omega)) fun entries _ =>
      neededOf_eq image segments entries

end Strict

end PluginChain.Elf

import Mathlib.Algebra.Group.Nat.Defs
import PluginChain.Proofs.Elf.Building
import PluginChain.Proofs.Elf.Extent

/-!
# Where the string table is mapped

The dynamic section gives the string table an address, and the first loadable segment that holds the
address gives it an offset in the image. The end of a segment is a sum that is cut off at the
greatest address, and the end itself is no longer in the segment. Below the greatest address this
decides exactly what the program headers say, also for segments whose end reaches or passes the top
of the address space. The greatest address is lost: it is held by no segment, even by one whose last
byte stands there (`greatestAddress_contained`).

Main statements:
* `Segment.maps_iff_contains`, `Segment.not_maps_greatestAddress`: where cutting off the end is
  exact, and where not.
* `offsetOf?_eq_none_iff_unmapped`: the addresses that have no offset.
* `neededLibraries_eq_unmapped_iff`: exactly when the string table of an image is told to be
  unmapped.
-/

namespace PluginChain.Elf

variable {image : Image} {segments : List Segment} {entries : List Entry} {address : Nat}

/-! ## First members -/

theorem isFirst_or_forall_not {α : Type} (P : α → Prop) (l : List α) :
    (∃ a, IsFirst P l a) ∨ ∀ a ∈ l, ¬ P a := by
  classical
  cases h : l.find? fun a => P a with
  | some a => exact .inl ⟨a, (find?_eq_some_iff_isFirst fun _ => decide_eq_true_iff).1 h⟩
  | none => exact .inr fun a ha => by simpa using List.find?_eq_none.1 h a ha

theorem IsFirst.mem {α : Type} {P : α → Prop} {l : List α} {a : α}
    (h : IsFirst P l a) : a ∈ l ∧ P a := by
  obtain ⟨before, after, rfl, ha, -⟩ := h
  exact ⟨by simp, ha⟩

theorem IsFirst.unique {α : Type} {P : α → Prop} {l : List α} {a b : α} (ha : IsFirst P l a)
    (hb : IsFirst P l b) :
    a = b := by
  classical
  have hiff {c : α} : l.find? (fun c => P c) = some c ↔ IsFirst P l c :=
    find?_eq_some_iff_isFirst fun _ => decide_eq_true_iff
  exact Option.some.inj ((hiff.2 ha).symm.trans (hiff.2 hb))

/-! ## Segments and addresses -/

/-- The greatest address. -/
def greatestAddress : Nat := offsetBound - 1

/-- The segment is loaded into memory and the address is one of its bytes, wherever the segment
    ends. -/
def Segment.Contains (s : Segment) (address : Nat) : Prop :=
  s.kind = loadable ∧ s.address ≤ address ∧ address - s.address < s.size

/-- Below the greatest address a segment maps what it contains. -/
theorem Segment.maps_iff_contains {s : Segment} (h : address < greatestAddress) :
    s.Maps address ↔ s.Contains address := by
  -- An end that is cut off is the greatest address, which is above this one as the exact end is.
  have hlt : address < offsetBound - 1 := h
  refine and_congr_right fun _ => and_congr_right fun hle => ?_
  rw [Nat.lt_min, Nat.sub_lt_iff_lt_add' hle]
  exact and_iff_left hlt

/-- The greatest address is in no segment, as no end is beyond it. -/
theorem Segment.not_maps_greatestAddress (s : Segment) : ¬ s.Maps greatestAddress := by
  rintro ⟨-, -, h⟩
  exact Nat.lt_irrefl _ (Nat.lt_of_lt_of_le h (Nat.min_le_right ..))

/-- No loadable segment contains the address, or the first one that does would put it past the
    greatest offset. -/
def Unmapped (segments : List Segment) (address : Nat) : Prop :=
  (∀ s ∈ segments, ¬ s.Contains address) ∨
    ∃ s, IsFirst (·.Contains address) segments s ∧ offsetBound ≤ s.offset + (address - s.address)

theorem offsetOf?_eq_none_iff :
    offsetOf? segments address = none ↔ (∀ s ∈ segments, ¬ s.Maps address) ∨
      ∃ s, IsFirst (·.Maps address) segments s ∧
        offsetBound ≤ s.offset + (address - s.address) := by
  rw [Option.eq_none_iff_forall_ne_some]
  simp only [ne_eq, offsetOf?_eq_some_iff, not_exists, not_and, Nat.not_lt]
  constructor
  · intro h
    rcases isFirst_or_forall_not (·.Maps address) segments with ⟨s, hs⟩ | hnone
    · exact .inr ⟨s, hs, h _ s hs rfl⟩
    · exact .inl hnone
  · rintro (hnone | ⟨s, hs, hbound⟩) table s' hs' rfl
    · exact absurd hs'.mem.2 (hnone s' hs'.mem.1)
    · -- No other segment is asked once the first one has no offset for the address.
      rwa [hs'.unique hs]

/-- Of the addresses that the program headers map, the greatest one alone has no offset. -/
theorem offsetOf?_eq_none_iff_unmapped (h : address < offsetBound) :
    offsetOf? segments address = none ↔ address = greatestAddress ∨ Unmapped segments address := by
  have hle : address ≤ greatestAddress := Nat.le_pred_of_lt h
  rw [offsetOf?_eq_none_iff]
  rcases Nat.eq_or_lt_of_le hle with rfl | hlt
  · exact iff_of_true (.inl fun s _ => s.not_maps_greatestAddress) (.inl rfl)
  · simp only [Segment.maps_iff_contains hlt, Nat.ne_of_lt hlt, false_or]
    rfl

/-! ## Names -/

theorem textAt_ne_unmapped {offset : Nat} {limit : Option Nat} :
    textAt image offset limit ≠ .error (.unmappedStringTable address) := by
  unfold textAt
  split
  · nofun
  · extract_lets window
    split
    · nofun
    · split <;> nofun

/-- Once the string table has an offset, what can go wrong is that a name is cut off or is not
    UTF-8. -/
theorem namesAt_ne_unmapped {table : Nat} {tableSize : Option Nat} {places : List Nat} :
    namesAt image table tableSize places ≠ .error (.unmappedStringTable address) := by
  induction places with
  | nil => nofun
  | cons place rest ih =>
    intro h
    rcases bind_eq_error_iff.1 h with hname | ⟨name, -, h⟩
    · unfold nameAt at hname
      split at hname
      · cases hname
      · exact textAt_ne_unmapped hname
    · rcases bind_eq_error_iff.1 h with hrest | ⟨names, -, hpure⟩
      · exact ih hrest
      · cases hpure

/-- If a library is needed and the string table has an address, it is told to be unmapped where that
    has no offset. -/
theorem neededOf_eq_unmapped_iff (hneeded : valuesOf neededTag entries ≠ [])
    (haddress : LastValue stringTableTag entries address) :
    neededOf image segments entries = .error (.unmappedStringTable address) ↔
      offsetOf? segments address = none := by
  obtain ⟨place, places, hplaces⟩ := List.exists_cons_of_ne_nil hneeded
  unfold neededOf
  simp only [hplaces, lastOf?_eq_some_iff.2 haddress]
  cases offsetOf? segments address with
  | none => exact iff_of_true rfl rfl
  | some table => exact iff_of_false namesAt_ne_unmapped nofun

/-! ## Values -/

theorem Layout.value_lt_of_entriesFrom {layout : Layout} {start index count : Nat}
    (h : layout.entriesFrom image start index count = .ok entries) :
    ∀ e ∈ entries, e.value < offsetBound := by
  induction count generalizing index entries with
  | zero =>
    cases h
    exact fun e he => absurd he List.not_mem_nil
  | succ count ih =>
    obtain ⟨entry, hentry, h⟩ := bind_eq_ok_iff.1 h
    split at h
    · cases h
      exact fun e he => absurd he List.not_mem_nil
    · obtain ⟨rest, hrest, ⟨⟩⟩ := bind_eq_ok_iff.1 h
      unfold entryAt at hentry
      simp only [bind_eq_ok_iff, readWord_eq_ok_iff] at hentry
      obtain ⟨_, -, value, hvalue, ⟨⟩⟩ := hentry
      exact List.forall_mem_cons.2 ⟨hvalue.lt, ih hrest⟩

/-! ## Images -/

/-- The image can be read up to its string table: its segments are these, it needs a library, and
    the last entry for the address of the string table gives this one. -/
def Seeks (image : Image) (segments : List Segment) (address : Nat) : Prop :=
  ∃ (layout : Layout) (segment : Segment) (entries : List Entry),
    Layout.ofImage image = .ok layout ∧ layout.segments image = .ok segments ∧
      IsFirst (·.kind = dynamic) segments segment ∧ layout.entries image segment = .ok entries ∧
      valuesOf neededTag entries ≠ [] ∧ LastValue stringTableTag entries address

/-- What can be read is what the bytes of the image say. -/
theorem seeks_iff_shows (hsize : image.size < offsetBound) :
    Seeks image segments address ↔ ∃ (layout : Layout) (segment : Segment) (entries : List Entry),
      layout.NamedBy image ∧ layout.ShowsSegments image segments ∧
        IsFirst (·.kind = dynamic) segments segment ∧
        layout.ShowsSection image segment entries ∧ valuesOf neededTag entries ≠ [] ∧
        LastValue stringTableTag entries address := by
  simp only [Seeks, Layout.ofImage_eq_ok_iff, Layout.segments_eq_ok_iff hsize,
    Layout.entries_eq_ok_iff hsize]

/-- Everything that is read before the string table is in order, so whether its address has an
    offset decides. -/
theorem neededLibraries_eq_unmapped_iff_offsetOf? (h : Seeks image segments address) :
    neededLibraries image = .error (.unmappedStringTable address) ↔
      offsetOf? segments address = none := by
  obtain ⟨layout, segment, entries, hlayout, hsegments, hdynamic, hentries, hneeded, haddress⟩ := h
  have hsegment : segments.find? (fun s => s.kind = dynamic) = some segment :=
    (find?_eq_some_iff_isFirst fun _ => decide_eq_true_iff).2 hdynamic
  have hread : neededLibraries image = neededOf image segments entries := by
    unfold neededLibraries
    simp only [hlayout, hsegments, hsegment, hentries, bind, Except.bind]
  rw [hread, neededOf_eq_unmapped_iff hneeded haddress]

/-- The address was read of a word. -/
theorem Seeks.lt_offsetBound (h : Seeks image segments address) : address < offsetBound := by
  obtain ⟨layout, segment, entries, -, -, -, hentries, -, before, after, rfl, -⟩ := h
  exact Layout.value_lt_of_entriesFrom hentries ⟨stringTableTag, address⟩ (by simp)

/-! ## A segment at the top of the address space -/

def highLayout : Layout := ⟨.bits64, .little⟩

/-- All 256 bytes of an image, loaded at the top of the address space, and its dynamic section. -/
def highSegments : List Segment :=
  [⟨loadable, 0, offsetBound - 256, 256⟩, ⟨dynamic, 176, offsetBound - 80, 64⟩]

/-- The dynamic section needs a library without a name: the string table at the address is one
    NUL. -/
def highEntries (address : Nat) : List Entry :=
  [⟨neededTag, 0⟩, ⟨stringTableTag, address⟩, ⟨stringSizeTag, 1⟩]

def highPatches (address : Nat) : List Patch :=
  highLayout.headerPatches ++
    (rowsPatches highLayout.segmentPatches highLayout.wordSize.segmentBytes
      highLayout.wordSize.headerBytes highSegments ++
      rowsPatches highLayout.entryPatches highLayout.wordSize.entryBytes 176
        (highEntries address ++ [⟨nullTag, 0⟩]))

/-- The image with these segments and entries. -/
def highImage (address : Nat) : Image :=
  patched (Array.replicate 256 0) (highPatches address)

theorem size_highImage (address : Nat) : (highImage address).size = 256 := by
  simp [highImage]

theorem hasAt_highImage (address : Nat) :
    ∀ p ∈ highPatches address, HasAt (highImage address) p.offset p.bytes := by
  have hsegments := fill_rowsPatches highLayout.fill_segmentPatches 64 highSegments
  have hentries :=
    fill_rowsPatches highLayout.fill_entryPatches 176 (highEntries address ++ [⟨nullTag, 0⟩])
  have hfill : Fill 0 (highPatches address) 240 :=
    highLayout.fill_headerPatches.append (hsegments.append hentries)
  exact hasAt_patched hfill (by simp)

theorem pow_bytes_highLayout : 256 ^ highLayout.wordSize.bytes = offsetBound := by decide

theorem showsSegments_highImage (address : Nat) :
    highLayout.ShowsSegments (highImage address) highSegments := by
  have hat := hasAt_highImage address
  simp only [highPatches, List.forall_mem_append] at hat
  obtain ⟨hheader, hsegments, -⟩ := hat
  have hfits : ∀ s ∈ highSegments, s.kind < 256 ^ 4 ∧ s.offset < offsetBound ∧
      s.address < offsetBound ∧ s.size < offsetBound := by
    decide
  simp only [← pow_bytes_highLayout] at hfits
  refine ⟨_, Layout.showsTable_of_hasAt hheader, rfl, rows_of_hasAt (fun base s hs hpatches => ?_)
    (by simpa using hsegments)⟩
  obtain ⟨hkind, hoffset, haddress, hsize⟩ := hfits s hs
  exact Layout.showsSegment_of_hasAt hkind hoffset haddress hsize hpatches

theorem showsSection_highImage (h : address < offsetBound) :
    highLayout.ShowsSection (highImage address) ⟨dynamic, 176, offsetBound - 80, 64⟩
      (highEntries address) := by
  have hat := hasAt_highImage address
  simp only [highPatches, List.forall_mem_append] at hat
  obtain ⟨-, -, hentries⟩ := hat
  have htags : ∀ tag ∈ [neededTag, stringTableTag, stringSizeTag, nullTag],
      tag < offsetBound := by decide
  have hvalues : ∀ value ∈ [0, address, 1, 0], value < offsetBound := by
    simpa only [List.forall_mem_cons, List.not_mem_nil, false_implies, implies_true, and_true]
      using ⟨by decide, h, by decide, by decide⟩
  simp only [← pow_bytes_highLayout] at htags hvalues
  have hrows : Rows (highLayout.ShowsEntryOf (highImage address) 176) 0
      (highEntries address ++ [⟨nullTag, 0⟩]) := by
    refine rows_of_hasAt (fun base e he hpatches => ?_) (by simpa using hentries)
    exact Layout.showsEntry_of_hasAt (htags _ (List.mem_map_of_mem (f := Entry.tag) he))
      (hvalues _ (List.mem_map_of_mem (f := Entry.value) he)) hpatches
  obtain ⟨hshown, hnull⟩ := rows_append.1 hrows
  exact ⟨show 3 ≤ 64 / 16 by decide, hshown,
    by simp [highEntries, neededTag, stringTableTag, stringSizeTag, nullTag],
    fun _ => ⟨0, (rows_cons.1 hnull).1⟩⟩

/-- Any word can be the address of the string table. -/
theorem seeks_highImage (h : address < offsetBound) :
    Seeks (highImage address) highSegments address := by
  have hsize : (highImage address).size < offsetBound := by
    rw [size_highImage]
    decide
  have hnamed : highLayout.NamedBy (highImage address) :=
    Layout.namedBy_of_hasAt (by simp [size_highImage])
      (hasAt_highImage address _ List.mem_cons_self)
  have hlast : LastValue stringTableTag (highEntries address) address :=
    ⟨[⟨neededTag, 0⟩], [⟨stringSizeTag, 1⟩], rfl, rfl, by decide⟩
  exact (seeks_iff_shows hsize).2
    ⟨highLayout, _, highEntries address, hnamed, showsSegments_highImage address,
    ⟨[_], [], rfl, rfl, by decide⟩, showsSection_highImage h, by simp [highEntries, valuesOf],
    hlast⟩

/-! ## Any image -/

/-- The string table of an image is told to be unmapped if and only if the program headers do not
    map its address, or it is the greatest one. -/
theorem neededLibraries_eq_unmapped_iff (h : Seeks image segments address) :
    neededLibraries image = .error (.unmappedStringTable address) ↔
      address = greatestAddress ∨ Unmapped segments address :=
  (neededLibraries_eq_unmapped_iff_offsetOf? h).trans
    (offsetOf?_eq_none_iff_unmapped h.lt_offsetBound)

/-- In a segment that ends at the top of the address space the last address but one is mapped. -/
theorem neededLibraries_eq_unmapped_iff_high :
    let address := greatestAddress - 1
    Seeks (highImage address) highSegments address ∧
      (neededLibraries (highImage address) = .error (.unmappedStringTable address) ↔
        address = greatestAddress ∨ Unmapped highSegments address) ∧
      neededLibraries (highImage address) ≠ .error (.unmappedStringTable address) := by
  intro address
  have hseeks : Seeks (highImage address) highSegments address := seeks_highImage (by decide)
  have hiff := neededLibraries_eq_unmapped_iff hseeks
  have hmapped : offsetOf? highSegments address ≠ none := by decide
  rw [ne_eq, offsetOf?_eq_none_iff_unmapped hseeks.lt_offsetBound, ← hiff] at hmapped
  exact ⟨hseeks, hiff, hmapped⟩

/-- The segment whose last byte stands at the greatest address contains that address, and puts it at
    the last byte of the image; still it is told to be unmapped. -/
theorem greatestAddress_contained :
    ¬ ∀ (image : Image) (segments : List Segment) (address : Nat), Seeks image segments address →
      (neededLibraries image = .error (.unmappedStringTable address) ↔
        Unmapped segments address) := by
  intro h
  have hseeks : Seeks (highImage greatestAddress) highSegments greatestAddress :=
    seeks_highImage (by decide)
  have hrefused : neededLibraries (highImage greatestAddress) =
      .error (.unmappedStringTable greatestAddress) :=
    (neededLibraries_eq_unmapped_iff_offsetOf? hseeks).2 (by decide)
  -- Read exactly, the address is byte 255 of the segment and of the image.
  have hcontains : Segment.Contains ⟨loadable, 0, offsetBound - 256, 256⟩ greatestAddress :=
    ⟨rfl, by decide, by decide⟩
  rcases (h _ _ _ hseeks).1 hrefused with hnone | ⟨s, hs, hbound⟩
  · exact hnone _ List.mem_cons_self hcontains
  · obtain rfl := hs.unique ⟨[], _, rfl, hcontains, by simp⟩
    exact absurd hbound (by decide)

end PluginChain.Elf

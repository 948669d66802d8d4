import Mathlib.Algebra.Group.Nat.Defs
import PluginChain.Proofs.Elf.Description

/-!
# When the needed libraries of an image can be told

An image lists libraries if its layout is named, its segments and its dynamic section are where its
headers say, and each name stands in the string table. `neededLibraries` tells exactly the libraries
that an image lists.

The last size of the string table counts: a name must end inside the table, even where the image
goes on and a NUL follows later (`name_past_the_table`).

Results:
* `lastOf?_eq_some_iff`, `offsetOf?_eq_some_iff`: the last entry of a tag, the first segment that
  maps an address.
* `neededOf_eq_ok_iff`: the names that the entries of a dynamic section ask for.
* `neededLibraries_eq_ok_iff`: exact acceptance.
-/

namespace PluginChain.Elf

variable {image : Image} {segments : List Segment} {entries : List Entry}

/-! ## First and last members -/

/-- `a` is the first member of the list with the property. -/
def IsFirst {α : Type} (P : α → Prop) (l : List α) (a : α) : Prop :=
  ∃ before after, l = before ++ a :: after ∧ P a ∧ ∀ b ∈ before, ¬ P b

/-- `a` is the last member of the list with the property. -/
def IsLast {α : Type} (P : α → Prop) (l : List α) (a : α) : Prop :=
  ∃ before after, l = before ++ a :: after ∧ P a ∧ ∀ b ∈ after, ¬ P b

theorem isFirst_reverse_iff {α : Type} {P : α → Prop} {l : List α} {a : α} :
    IsFirst P l.reverse a ↔ IsLast P l a := by
  constructor
  · rintro ⟨before, after, hl, ha, hbefore⟩
    refine ⟨after.reverse, before.reverse, ?_, ha, fun b hb => hbefore b (List.mem_reverse.1 hb)⟩
    rw [← List.reverse_reverse l, hl]
    simp
  · rintro ⟨before, after, rfl, ha, hafter⟩
    exact ⟨after.reverse, before.reverse, by simp, ha, fun b hb => hafter b (List.mem_reverse.1 hb)⟩

theorem find?_eq_some_iff_isFirst {α : Type} {P : α → Prop} {p : α → Bool}
    (hp : ∀ a, p a = true ↔ P a) {l : List α} {a : α} : l.find? p = some a ↔ IsFirst P l a := by
  rw [List.find?_eq_some_iff_append]
  constructor
  · rintro ⟨ha, before, after, rfl, hbefore⟩
    refine ⟨before, after, rfl, (hp a).1 ha, fun b hb => ?_⟩
    rw [← hp, Bool.not_eq_true, ← Bool.not_eq_true']
    exact hbefore b hb
  · rintro ⟨before, after, rfl, ha, hbefore⟩
    refine ⟨(hp a).2 ha, before, after, rfl, fun b hb => ?_⟩
    rw [Bool.not_eq_true', ← Bool.not_eq_true, hp]
    exact hbefore b hb

/-! ## The string table -/

/-- The last entry with the tag has this value. -/
def LastValue (tag : Nat) (entries : List Entry) (value : Nat) : Prop :=
  IsLast (·.tag = tag) entries ⟨tag, value⟩

theorem lastOf?_eq_some_iff {tag value : Nat} :
    lastOf? tag entries = some value ↔ LastValue tag entries value := by
  have hlast :
      lastOf? tag entries = (entries.reverse.find? fun e => e.tag = tag).map (·.value) := by
    rw [lastOf?, valuesOf, List.getLast?_map,
      List.getLast?_eq_head?_reverse, ← List.filter_reverse, List.head?_filter]
  rw [hlast, Option.map_eq_some_iff, LastValue, ← isFirst_reverse_iff]
  simp only [find?_eq_some_iff_isFirst (P := fun e : Entry => e.tag = tag) fun e =>
    decide_eq_true_iff]
  constructor
  · rintro ⟨⟨_, _⟩, he, rfl⟩
    obtain ⟨_, _, _, rfl, _⟩ := id he
    exact he
  · intro h
    exact ⟨_, h, rfl⟩

/-- The segment is loaded into memory and holds the address there. It ends where its size says, and
    below the greatest address. -/
def Segment.Maps (s : Segment) (address : Nat) : Prop :=
  s.kind = loadable ∧ s.address ≤ address ∧ address < min (s.address + s.size) (offsetBound - 1)

theorem offsetOf?_eq_some_iff {address table : Nat} :
    offsetOf? segments address = some table ↔
      ∃ s, IsFirst (·.Maps address) segments s ∧ table = s.offset + (address - s.address) ∧
        table < offsetBound := by
  have hmaps (s : Segment) :
      decide (decide (s.kind = loadable) = true ∧ s.holds address = true) = true ↔
        s.Maps address := by
    simp only [decide_eq_true_eq, Segment.holds, Bool.and_eq_true]
    rfl
  unfold offsetOf?
  simp only [List.find?_filter, Option.bind_eq_some_iff, find?_eq_some_iff_isFirst hmaps,
    checkedAdd, Option.ite_none_right_eq_some, Option.some.injEq]
  refine exists_congr fun s => and_congr_right fun _ => ?_
  constructor
  · rintro ⟨hlt, rfl⟩
    exact ⟨rfl, hlt⟩
  · rintro ⟨rfl, hlt⟩
    exact ⟨hlt, rfl⟩

/-! ## The names that entries ask for -/

/-- The string table begins at `table` in the image: there the first segment that maps its address
    puts it, and the last entry for the address counts. -/
def StringTableAt (segments : List Segment) (entries : List Entry) (table : Nat) : Prop :=
  ∃ address s, LastValue stringTableTag entries address ∧ IsFirst (·.Maps address) segments s ∧
    table = s.offset + (address - s.address)

/-- The entries ask for the libraries with these names: one for each entry that needs a library, in
    order. Each name stands at its place in the string table, and ends inside the table wherever
    `Sized` gives the table a size. -/
def AskFor (image : Image) (segments : List Segment) (entries : List Entry)
    (Sized : List Entry → Nat → Prop) (names : List String) : Prop :=
  valuesOf neededTag entries = [] ∧ names = [] ∨
    ∃ table, StringTableAt segments entries table ∧
      NamesAt image table (Sized entries) (valuesOf neededTag entries) names

theorem neededOf_eq_ok_iff {names : List String} (hsize : image.size < offsetBound) :
    neededOf image segments entries = .ok names ↔
      AskFor image segments entries (LastValue stringSizeTag) names := by
  have hsized : (· ∈ lastOf? stringSizeTag entries) = LastValue stringSizeTag entries :=
    funext fun _ => propext lastOf?_eq_some_iff
  unfold neededOf AskFor StringTableAt
  rw [← hsized]
  generalize valuesOf neededTag entries = places
  cases places with
  | nil =>
    dsimp only
    constructor
    · rintro ⟨⟩
      exact .inl ⟨rfl, rfl⟩
    · rintro (⟨-, rfl⟩ | ⟨_, _, h⟩)
      · rfl
      · rw [List.forall₂_nil_left_iff.1 h]
  | cons place places =>
    dsimp only
    constructor
    · intro h
      split at h
      · cases h
      rename_i address haddress
      split at h
      · cases h
      rename_i table htable
      obtain ⟨s, hs, rfl, -⟩ := offsetOf?_eq_some_iff.1 htable
      exact .inr ⟨_, ⟨address, s, lastOf?_eq_some_iff.1 haddress, hs, rfl⟩,
        (namesAt_eq_ok_iff hsize).1 h⟩
    · rintro (⟨⟨⟩, -⟩ | ⟨table, ⟨address, s, haddress, hs, htable⟩, h⟩)
      -- There is a name, so the table lies in the image and its offset is below the bound.
      obtain ⟨name, rest, hname, -, -⟩ := List.forall₂_cons_left_iff.1 h
      have hlt := hname.1.lt_size
      have hoffset : offsetOf? segments address = some table :=
        offsetOf?_eq_some_iff.2 ⟨s, hs, htable, by omega⟩
      simp only [lastOf?_eq_some_iff.2 haddress, hoffset]
      exact (namesAt_eq_ok_iff hsize).2 h

/-! ## The libraries that an image lists -/

/-- The image lists the libraries with these names: its first bytes name a layout in which the
    headers describe segments, the first dynamic one of these holds entries before its end, and the
    entries ask for the names. -/
def Lists (Sized : List Entry → Nat → Prop) (image : Image) (names : List String) : Prop :=
  ∃ (layout : Layout) (segments : List Segment) (segment : Segment) (entries : List Entry),
    layout.NamedBy image ∧ layout.ShowsSegments image segments ∧
      IsFirst (·.kind = dynamic) segments segment ∧
      layout.ShowsSection image segment entries ∧ AskFor image segments entries Sized names

theorem neededLibraries_eq_ok_iff_lists {names : List String} (hsize : image.size < offsetBound) :
    neededLibraries image = .ok names ↔ Lists (LastValue stringSizeTag) image names := by
  have hdynamic {segments : List Segment} {segment : Segment} :
      segments.find? (fun s => s.kind = dynamic) = some segment ↔
        IsFirst (·.kind = dynamic) segments segment :=
    find?_eq_some_iff_isFirst fun _ => decide_eq_true_iff
  unfold neededLibraries Lists
  simp only [bind_eq_ok_iff, Layout.ofImage_eq_ok_iff, Layout.segments_eq_ok_iff hsize]
  constructor
  · rintro ⟨layout, hlayout, segments, hsegments, h⟩
    split at h
    · cases h
    rename_i segment hsegment
    obtain ⟨entries, hentries, h⟩ := bind_eq_ok_iff.1 h
    exact ⟨layout, segments, segment, entries, hlayout, hsegments, hdynamic.1 hsegment,
      (Layout.entries_eq_ok_iff hsize).1 hentries, (neededOf_eq_ok_iff hsize).1 h⟩
  · rintro ⟨layout, segments, segment, entries, hlayout, hsegments, hsegment, hentries, h⟩
    refine ⟨layout, hlayout, segments, hsegments, ?_⟩
    rw [hdynamic.2 hsegment]
    exact bind_eq_ok_iff.2
      ⟨entries, (Layout.entries_eq_ok_iff hsize).2 hentries, (neededOf_eq_ok_iff hsize).2 h⟩

/-- An image of 32 bits with the least byte first that needs one library. Its name, `a` and a NUL,
    stands at offset 6, where the string table begins; `size` is the size of that table. -/
def oneLibrary (size : UInt8) : Image :=
  #[0x7F, 0x45, 0x4C, 0x46, 1, 1, 0x61, 0, 0, 0, 0, 0, 0, 0, 0, 0,
    0, 0, 0, 0, 0, 0, 0, 0, 0, 0, 0, 0, 48, 0, 0, 0,
    0, 0, 0, 0, 0, 0, 0, 0, 0, 0, 20, 0, 2, 0, 0, 0,
    1, 0, 0, 0, 0, 0, 0, 0, 0, 0, 0, 0, 0, 0, 0, 0, 112, 0, 0, 0,
    2, 0, 0, 0, 88, 0, 0, 0, 88, 0, 0, 0, 0, 0, 0, 0, 24, 0, 0, 0,
    1, 0, 0, 0, 0, 0, 0, 0,
    5, 0, 0, 0, 6, 0, 0, 0,
    10, 0, 0, 0, size, 0, 0, 0]

/-- The libraries that an image needs are told if and only if the image lists them, where the names
    end inside the string table if the dynamic section gives its size. -/
theorem neededLibraries_eq_ok_iff (image : Image) (names : List String)
    (hsize : image.size < 2 ^ 63) :
    neededLibraries image = .ok names ↔ Lists (LastValue stringSizeTag) image names :=
  neededLibraries_eq_ok_iff_lists (Nat.lt_trans hsize (by decide))

theorem neededLibraries_eq_ok_iff_oneLibrary :
    (oneLibrary 2).size < 2 ^ 63 ∧
      (neededLibraries (oneLibrary 2) = .ok ["a"] ↔
        Lists (LastValue stringSizeTag) (oneLibrary 2) ["a"]) ∧
      neededLibraries (oneLibrary 2) = .ok ["a"] :=
  ⟨by decide, neededLibraries_eq_ok_iff (oneLibrary 2) ["a"] (by decide), by decide⟩

/-- A name whose NUL is in the image and not in the string table is not read. -/
theorem name_past_the_table :
    ¬ ∀ (image : Image) (names : List String), image.size < 2 ^ 63 →
      (neededLibraries image = .ok names ↔ Lists (fun _ _ => False) image names) := by
  intro h
  have hsize : (oneLibrary 1).size < offsetBound := by decide
  let layout : Layout := ⟨.bits32, .little⟩
  let segments : List Segment := [⟨loadable, 0, 0, 112⟩, ⟨dynamic, 88, 88, 24⟩]
  let entries : List Entry := [⟨neededTag, 0⟩, ⟨stringTableTag, 6⟩, ⟨stringSizeTag, 1⟩]
  have hlayout : layout.NamedBy (oneLibrary 1) := Layout.ofImage_eq_ok_iff.1 (by decide)
  have hsegments : layout.ShowsSegments (oneLibrary 1) segments :=
    (Layout.segments_eq_ok_iff hsize).1 (by decide)
  have hentries : layout.ShowsSection (oneLibrary 1) ⟨dynamic, 88, 88, 24⟩ entries :=
    (Layout.entries_eq_ok_iff hsize).1 (by decide)
  have hdynamic : IsFirst (·.kind = dynamic) segments ⟨dynamic, 88, 88, 24⟩ :=
    ⟨[⟨loadable, 0, 0, 112⟩], [], rfl, rfl, by decide⟩
  have htable : StringTableAt segments entries 6 :=
    ⟨6, ⟨loadable, 0, 0, 112⟩, lastOf?_eq_some_iff.1 (by decide),
      ⟨[], [⟨dynamic, 88, 88, 24⟩], rfl, ⟨rfl, by decide, by decide⟩, by simp⟩, rfl⟩
  have hname : NameAt (oneLibrary 1) 6 "a" := ⟨by decide, by decide⟩
  have hlists : Lists (fun _ _ => False) (oneLibrary 1) ["a"] :=
    ⟨layout, segments, _, entries, hlayout, hsegments, hdynamic, hentries,
      .inr ⟨6, htable, .cons ⟨hname, fun _ h => h.elim⟩ .nil⟩⟩
  have htold : neededLibraries (oneLibrary 1) = .ok ["a"] := (h _ _ (by decide)).2 hlists
  have hrefused : neededLibraries (oneLibrary 1) = .error (.truncated .stringTable) := by decide
  rw [hrefused] at htold
  cases htold

end PluginChain.Elf

import PluginChain.Proofs.Elf.Acceptance

/-!
# The beginning of an image

What is read of the beginning of an image is what is read of the whole image, or the beginning is
too short to tell. Reading a beginning goes through the same steps as reading the whole: every place
that is read lies where the bytes before it say, never where the image ends.

Main statements:
* `Foretells.bind`: steps that foretell each other make runs that do.
* `textAt_foretells`: where the image ends changes the window in which a NUL is searched, and not
  what is found there.
* `neededLibraries_foretells`: the needed libraries of a beginning are those of the whole, or it is
  too short.
-/

namespace PluginChain.Elf

/-! ## Foretelling -/

/-- The error may come of an image that was cut off. -/
def Error.OfShort (e : Error) : Prop :=
  e = .notElf ∨ ∃ part, e = .truncated part

/-- What is read of a beginning is what is read of the whole, or the beginning is too short to
    tell. -/
def Foretells {α : Type} (first whole : Except Error α) : Prop :=
  whole = first ∨ ∃ e, first = .error e ∧ e.OfShort

namespace Foretells

variable {α β : Type}

theorem refl (first : Except Error α) : Foretells first first := .inl rfl

theorem truncated {part : Part} {whole : Except Error α} :
    Foretells (.error (.truncated part)) whole :=
  .inr ⟨_, rfl, .inr ⟨part, rfl⟩⟩

theorem notElf {whole : Except Error α} : Foretells (.error .notElf) whole :=
  .inr ⟨_, rfl, .inl rfl⟩

theorem bind {first whole : Except Error α} {f g : α → Except Error β} (h : Foretells first whole)
    (hf : ∀ a, Foretells (f a) (g a)) : Foretells (first >>= f) (whole >>= g) := by
  rcases h with rfl | ⟨e, rfl, he⟩
  · cases whole with
    | error e => exact refl _
    | ok a => exact hf a
  · exact .inr ⟨e, rfl, he⟩

end Foretells

/-! ## Fields -/

variable (data suffix : Image)

variable {data suffix} in
theorem HasAt.append {offset : Nat} {bytes : List UInt8} (h : HasAt data offset bytes) :
    HasAt (data ++ suffix) offset bytes := by
  intro i hi
  rw [Array.getElem?_append_left (h.lt_size hi), h i hi]

theorem ByteOrder.read_foretells (order : ByteOrder) (part : Part) (offset width : Nat) :
    Foretells (order.read data part offset width)
      (order.read (data ++ suffix) part offset width) := by
  unfold read
  split
  · rename_i hsize
    have hextract : (data ++ suffix).extract offset (offset + width) =
        data.extract offset (offset + width) := by
      simp [Array.extract_append, Nat.sub_eq_zero_of_le hsize]
    rw [if_pos (by rw [Array.size_append]; omega), hextract]
    exact .refl _
  · exact .truncated

namespace Layout

variable (layout : Layout)

theorem readWord_foretells (part : Part) (offset : Nat) :
    Foretells (layout.readWord data part offset) (layout.readWord (data ++ suffix) part offset) :=
  layout.order.read_foretells data suffix part offset layout.wordSize.bytes

theorem ofImage_foretells : Foretells (ofImage data) (ofImage (data ++ suffix)) := by
  unfold ofImage
  split
  · exact .notElf
  · rename_i h
    simp only [Bool.or_eq_true, decide_eq_true_eq, bne_iff_ne, ne_eq, not_or, Nat.not_lt,
      Decidable.not_not] at h
    have hbyte (i : Nat) (hi : i < 16) : (data ++ suffix).getD i 0 = data.getD i 0 := by
      rw [Array.getD_eq_getD_getElem?, Array.getD_eq_getD_getElem?,
        Array.getElem?_append_left (by omega)]
    have hmagic : (data ++ suffix).extract 0 4 = data.extract 0 4 := by
      simp [Array.extract_append, show 4 - data.size = 0 by omega]
    have hlong : ¬ (data ++ suffix).size < 16 := by rw [Array.size_append]; omega
    rw [hmagic, hbyte 4 (by decide), hbyte 5 (by decide), h.2,
      if_neg (by simpa using hlong)]
    exact .refl _

/-! ## Segments -/

theorem headerTable_foretells :
    Foretells (layout.headerTable data) (layout.headerTable (data ++ suffix)) :=
  (layout.readWord_foretells data suffix _ _).bind fun _ =>
    (layout.order.read_foretells data suffix _ _ _).bind fun _ =>
      (layout.order.read_foretells data suffix _ _ _).bind fun _ => .refl _

theorem segmentAt_foretells (base : Nat) :
    Foretells (layout.segmentAt data base) (layout.segmentAt (data ++ suffix) base) :=
  (layout.order.read_foretells data suffix _ _ _).bind fun _ =>
    (layout.readWord_foretells data suffix _ _).bind fun _ =>
      (layout.readWord_foretells data suffix _ _).bind fun _ =>
        (layout.readWord_foretells data suffix _ _).bind fun _ => .refl _

theorem segmentsFrom_foretells (table : HeaderTable) (index count : Nat) :
    Foretells (layout.segmentsFrom data table index count)
      (layout.segmentsFrom (data ++ suffix) table index count) := by
  induction count generalizing index with
  | zero => exact .refl _
  | succ count ih =>
    unfold segmentsFrom
    split
    · exact .refl _
    · exact (layout.segmentAt_foretells data suffix _).bind fun _ =>
        (ih (index + 1)).bind fun _ => .refl _

theorem segments_foretells : Foretells (layout.segments data) (layout.segments (data ++ suffix)) :=
  (layout.headerTable_foretells data suffix).bind fun _ =>
    layout.segmentsFrom_foretells data suffix _ _ _

/-! ## The dynamic section -/

theorem entryAt_foretells (offset : Nat) :
    Foretells (layout.entryAt data offset) (layout.entryAt (data ++ suffix) offset) :=
  (layout.readWord_foretells data suffix _ _).bind fun _ =>
    (layout.readWord_foretells data suffix _ _).bind fun _ => .refl _

theorem entriesFrom_foretells (start index count : Nat) :
    Foretells (layout.entriesFrom data start index count)
      (layout.entriesFrom (data ++ suffix) start index count) := by
  induction count generalizing index with
  | zero => exact .refl _
  | succ count ih =>
    unfold entriesFrom
    refine (layout.entryAt_foretells data suffix _).bind fun entry => ?_
    split
    · exact .refl _
    · exact (ih (index + 1)).bind fun _ => .refl _

end Layout

/-! ## Names -/

theorem textAt_foretells (offset : Nat) (limit : Option Nat) :
    Foretells (textAt data offset limit) (textAt (data ++ suffix) offset limit) := by
  unfold textAt
  extract_lets window wider
  have hwindow : window ≤ wider := by
    cases limit <;> simp [window, wider] <;> omega
  split
  · exact .truncated
  split
  · exact .truncated
  rename_i hoffset _ stop hstop
  obtain ⟨bytes, rfl, hcount, hzero, hat⟩ := nulFrom_eq_some_iff.1 hstop
  have hstop' : nulFrom (data ++ suffix) offset wider = some (offset + bytes.length) :=
    nulFrom_eq_some_iff.2 ⟨bytes, rfl, by omega, hzero, hat.append⟩
  rw [if_neg (by rw [Array.size_append]; omega), hstop']
  simp only [hat.extract_init, hat.append.extract_init]
  exact .refl _

theorem namesAt_foretells (table : Nat) (tableSize : Option Nat) (places : List Nat) :
    Foretells (namesAt data table tableSize places)
      (namesAt (data ++ suffix) table tableSize places) := by
  induction places with
  | nil => exact .refl _
  | cons place rest ih =>
    have hname : Foretells (nameAt data table tableSize place)
        (nameAt (data ++ suffix) table tableSize place) := by
      unfold nameAt
      split
      · exact .refl _
      · exact textAt_foretells data suffix _ _
    exact hname.bind fun _ => ih.bind fun _ => .refl _

theorem neededOf_foretells (segments : List Segment) (entries : List Entry) :
    Foretells (neededOf data segments entries) (neededOf (data ++ suffix) segments entries) := by
  unfold neededOf
  split
  · exact .refl _
  split
  · exact .refl _
  split
  · exact .refl _
  · exact namesAt_foretells data suffix _ _ _

/-! ## Needed libraries -/

theorem neededLibraries_foretells :
    Foretells (neededLibraries data) (neededLibraries (data ++ suffix)) := by
  refine (Layout.ofImage_foretells data suffix).bind fun layout => ?_
  refine (layout.segments_foretells data suffix).bind fun segments => ?_
  split
  · exact .refl _
  · exact (layout.entriesFrom_foretells data suffix _ _ _).bind fun entries =>
      neededOf_foretells data suffix segments entries

/-- A beginning of an image that is not too short to tell gives what the whole image gives: the same
    names, or the same error. -/
theorem neededLibraries_append (hbegun : neededLibraries data ≠ .error .notElf)
    (hlong : ∀ part, neededLibraries data ≠ .error (.truncated part)) :
    neededLibraries (data ++ suffix) = neededLibraries data := by
  rcases neededLibraries_foretells data suffix with h | ⟨e, he, rfl | ⟨part, rfl⟩⟩
  · exact h
  · exact absurd he hbegun
  · exact absurd he (hlong part)

/-- The string table is said to be longer than the beginning, and the search for a NUL ends where
    the beginning does; in the whole image it ends with the table. -/
theorem neededLibraries_append_oneLibrary :
    neededLibraries (oneLibrary 200) = .ok ["a"] ∧
      neededLibraries (oneLibrary 200 ++ Array.replicate 150 0xFF) =
        neededLibraries (oneLibrary 200) := by
  have htold : neededLibraries (oneLibrary 200) = .ok ["a"] := by decide
  exact ⟨htold, neededLibraries_append (oneLibrary 200) (Array.replicate 150 0xFF)
    (by simp [htold]) (by simp [htold])⟩

end PluginChain.Elf

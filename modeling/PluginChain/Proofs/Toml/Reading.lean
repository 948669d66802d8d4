import PluginChain.Proofs.Toml.Quoting
import PluginChain.Toml.Reading

/-!
# Keys and values are read as they were written

A key and a text begin with characters that neither a space, a comment nor a line break begins with,
so a reader that skips those stops there, and what is written after a key or a value does not
continue it.

Main statements:
* `readKey_printKey`: a key is read as a key without dots.
* `writes_printText`, `writes_printArray`: texts and arrays of texts are read as they were written.
-/

namespace PluginChain.Toml

/-! ## The beginning of a key or a text -/

/-- The characters that keys and texts begin with. -/
def IsOpening (c : Char) : Prop := isBare c ∨ c = '"' ∨ c = '\''

instance (c : Char) : Decidable (IsOpening c) := inferInstanceAs (Decidable (_ ∨ _ ∨ _))

/-- The text begins with a key or a text. -/
def Opens (s : List Char) : Prop := ∃ c tail, s = c :: tail ∧ IsOpening c

section Opening

variable {c : Char} {s : List Char}

theorem IsOpening.ne (h : IsOpening c) {d : Char} (hd : ¬ IsOpening d) : c ≠ d :=
  fun hc => hd (hc ▸ h)

theorem IsOpening.isSpace_eq_false (h : IsOpening c) : isSpace c = false := by
  simp [isSpace, h.ne (d := ' ') (by decide), h.ne (d := '\t') (by decide)]

theorem Opens.head?_ne (h : Opens s) {d : Char} (hd : ¬ IsOpening d) : s.head? ≠ some d := by
  obtain ⟨c, tail, rfl, hc⟩ := h
  simpa using hc.ne hd

theorem Opens.append (h : Opens s) (rest : List Char) : Opens (s ++ rest) := by
  obtain ⟨c, tail, rfl, hc⟩ := h
  exact ⟨c, tail ++ rest, rfl, hc⟩

theorem Opens.skipSpaces (h : Opens s) : skipSpaces s = s := by
  obtain ⟨c, tail, rfl, hc⟩ := h
  simp [Toml.skipSpaces, hc.isSpace_eq_false]

theorem Opens.skipVoid (h : Opens s) : skipVoid s = s := by
  obtain ⟨c, tail, rfl, hc⟩ := h
  have hn := hc.ne (d := '\n') (by decide)
  have hr := hc.ne (d := '\r') (by decide)
  have hcomment := hc.ne (d := '#') (by decide)
  simp [Toml.skipVoid, skipVoidFrom, hn, hr, hcomment, hc.isSpace_eq_false]

theorem Opens.lineEnd? (h : Opens s) : lineEnd? s = none := by
  rw [Toml.lineEnd?, h.skipSpaces]
  obtain ⟨c, tail, rfl, hc⟩ := h
  have hcomment := hc.ne (d := '#') (by decide)
  have hbreak :=
    lineBreak?_cons (s := tail) (hc.ne (d := '\n') (by decide)) (hc.ne (d := '\r') (by decide))
  simp [skipComment, hcomment, hbreak]

theorem quoteIn_eq_cons (style : Style) (s : List Char) :
    ∃ q tail, quoteIn style s = q :: tail ∧ (q = '"' ∨ q = '\'') := by
  cases style <;> exact ⟨_, _, rfl, by decide⟩

theorem opens_quoteIn (style : Style) (s : List Char) : Opens (quoteIn style s) := by
  obtain ⟨q, tail, h, hq⟩ := quoteIn_eq_cons style s
  exact ⟨q, tail, h, .inr hq⟩

theorem printText_eq_cons (s : String) : ∃ q tail, printText s = q :: tail ∧ (q = '"' ∨ q = '\'') :=
  quoteIn_eq_cons _ _

theorem opens_printText (s : String) : Opens (printText s) :=
  opens_quoteIn _ _

end Opening

/-! ## Keys -/

/-- What follows a key does not continue it. -/
structure EndsKey (rest : List Char) : Prop where
  not_bare : ∀ c, rest.head? = some c → isBare c = false
  not_dot : (skipSpaces rest).head? ≠ some '.'

theorem endsKey_equals (rest : List Char) : EndsKey (' ' :: '=' :: rest) where
  not_bare c hc := by
    obtain rfl : ' ' = c := by simpa using hc
    decide
  not_dot := by simp [skipSpaces, isSpace]

theorem endsKey_bracket (rest : List Char) : EndsKey (']' :: rest) where
  not_bare c hc := by
    obtain rfl : ']' = c := by simpa using hc
    decide
  not_dot := by simp [skipSpaces, isSpace]

section Keys

variable {rest : List Char}

theorem opens_printKey (s : String) : Opens (printKey s) := by
  fun_cases printKey s with
  | case1 h =>
    simp only [Bool.and_eq_true, List.all_eq_true] at h
    cases hs : s.toList with
    | nil => simp [hs] at h
    | cons c tail => exact ⟨c, tail, rfl, .inl (h.2 c (by simp [hs]))⟩
  | case2 => exact opens_quoteIn _ _

/-- A bare key is taken to its end and no further. -/
theorem EndsKey.span {s : List Char} (hrest : EndsKey rest) (hs : ∀ c ∈ s, isBare c) :
    (s ++ rest).takeWhile isBare = s ∧ (s ++ rest).dropWhile isBare = rest := by
  rw [List.takeWhile_append_of_pos hs, List.dropWhile_append_of_pos hs]
  obtain _ | ⟨c, tail⟩ := rest
  · simp
  · have hc := hrest.not_bare c rfl
    simp [hc]

theorem takeWhile_isBare_quoteIn (style : Style) (s rest : List Char) :
    (quoteIn style s ++ rest).takeWhile isBare = [] := by
  obtain ⟨q, tail, h, hq⟩ := quoteIn_eq_cons style s
  rw [h, List.cons_append]
  rcases hq with rfl | rfl <;> exact List.takeWhile_cons_of_neg (by decide)

theorem readKeyPart_printKey (s : String) (hrest : EndsKey rest) :
    readKeyPart (printKey s ++ rest) = some (s, rest) := by
  fun_cases printKey s with
  | case1 h =>
    simp only [Bool.and_eq_true, List.all_eq_true] at h
    obtain ⟨htake, hdrop⟩ := hrest.span h.2
    have hne : s.toList ≠ [] := by simpa using h.1
    rw [readKeyPart, htake, hdrop]
    split
    · contradiction
    · rw [String.ofList_toList]
  | case2 h =>
    rw [readKeyPart, takeWhile_isBare_quoteIn]
    have hstyle := Traits.keyStyle_suits s.toList
    simp [readOneLineText_quoteIn hstyle.1 hstyle.2]

theorem readKeyParts_printKey (bound : Nat) (s : String) (hrest : EndsKey rest) :
    readKeyParts (bound + 1) (printKey s ++ rest) = some ([s], skipSpaces rest) := by
  rw [readKeyParts, ((opens_printKey s).append rest).skipSpaces, readKeyPart_printKey s hrest]
  have hdot := hrest.not_dot
  dsimp only
  split
  · rename_i heq
    exact absurd (by simp [heq]) hdot
  · rfl

/-- A key is read as a key without dots, with the spaces after it. -/
theorem readKey_printKey (s : String) (hrest : EndsKey rest) :
    readKey (printKey s ++ rest) = some ({ parents := [], name := s }, skipSpaces rest) := by
  rw [readKey, depthLimit, readKeyParts_printKey 78 s hrest]
  rfl

end Keys

/-! ## Values -/

/-- `form` is read as the value where values nest no deeper than `depth`, and spaces before it are
    none of it. -/
structure Writes (depth : Nat) (form : List Char) (value : Value) : Prop where
  reads : ∀ rest, StartsUnquoted rest → readValue depth (form ++ rest) = some (value, rest)
  start : ∀ rest, skipSpaces (form ++ rest) = form ++ rest

theorem readScalar_printText (s : String) {rest : List Char} (hrest : StartsUnquoted rest) :
    readScalar (printText s ++ rest) = some (.text s, rest) := by
  have hread := readText_printText s hrest
  obtain ⟨q, tail, h, hq⟩ := printText_eq_cons s
  rw [h, List.cons_append] at hread ⊢
  rcases hq with rfl | rfl <;> simp only [readScalar, hread, Option.map_some]

theorem readValue_printText (depth : Nat) (s : String) {rest : List Char}
    (hrest : StartsUnquoted rest) :
    readValue depth (printText s ++ rest) = some (.text s, rest) := by
  have hread := readScalar_printText s hrest
  obtain ⟨q, tail, h, hq⟩ := printText_eq_cons s
  rw [h, List.cons_append] at hread ⊢
  cases depth with
  | zero => exact hread
  | succ depth => rcases hq with rfl | rfl <;> exact hread

theorem writes_printText (depth : Nat) (s : String) : Writes depth (printText s) (.text s) where
  reads _ := readValue_printText depth s
  start rest := ((opens_printText s).append rest).skipSpaces

/-- A round of the reader of items takes one text; what comes after it decides whether there is
    another round. -/
theorem readItems_printText (depth : Nat) (s : String) {bound text rest : List Char}
    (hbound : 0 < bound.length) (hskip : skipVoid text = printText s ++ rest)
    (hrest : StartsUnquoted rest) :
    readItems (readValue depth) bound text =
      match skipVoid rest with
      | ']' :: rest => some ([.text s], rest)
      | ',' :: rest =>
        (readItems (readValue depth) bound.tail rest).map fun r => (.text s :: r.1, r.2)
      | _ => none := by
  obtain ⟨d, bound, rfl⟩ := List.exists_cons_of_length_pos hbound
  have hbracket := ((opens_printText s).append rest).head?_ne (d := ']') (by decide)
  rw [readItems, hskip]
  split
  · rename_i heq
    exact absurd (by rw [heq]; rfl) hbracket
  · rw [readValue_printText depth s hrest]
    rfl

/-- The items of an array, each on a line of its own, are read in as many rounds. -/
theorem readItems_lines (depth : Nat) (items : List String) (bound rest : List Char)
    (hbound : items.length < bound.length) :
    readItems (readValue depth) bound ('\n' :: (items.flatMap printItem ++ ']' :: rest)) =
      some (items.map .text, rest) := by
  induction items generalizing bound with
  | nil =>
    obtain ⟨d, bound, rfl⟩ := List.exists_cons_of_length_pos hbound
    rfl
  | cons s items ih =>
    have hskip : skipVoid ('\n' :: ((s :: items).flatMap printItem ++ ']' :: rest)) =
        printText s ++ ',' :: '\n' :: (items.flatMap printItem ++ ']' :: rest) := by
      rw [← ((opens_printText s).append _).skipVoid, List.flatMap_cons, printItem,
        List.append_assoc, List.append_assoc, List.append_assoc]
      rfl
    rw [List.length_cons] at hbound
    have hitems := ih bound.tail (by rw [List.length_tail]; omega)
    rw [readItems_printText depth s (by omega) hskip ⟨by simp, by simp⟩]
    exact congrArg (Option.map fun r => (Value.text s :: r.1, r.2)) hitems

theorem length_le_length_flatMap_printItem (items : List String) :
    items.length ≤ (items.flatMap printItem).length := by
  induction items with
  | nil => exact Nat.le_refl _
  | cons s items ih =>
    rw [List.flatMap_cons, List.length_append, List.length_cons, printItem, List.length_append]
    simp only [List.length_cons]
    omega

theorem readValue_bracket {depth : Nat} {s rest : List Char} {items : List Value}
    (h : readItems (readValue depth) s s = some (items, rest)) :
    readValue (depth + 1) ('[' :: s) = some (.array items, rest) := by
  rw [readValue, h]
  rfl

/-- An array of texts is read as it was written, on one line or on several. -/
theorem writes_printArray (depth : Nat) (items : List String) :
    Writes (depth + 1) (printArray items) (.array (items.map .text)) where
  reads rest hrest := by
    fun_cases printArray items with
    | case1 => rfl
    | case2 s =>
      have hskip := ((opens_printText s).append (']' :: rest)).skipVoid
      have hbound : 0 < (printText s ++ ']' :: rest).length := by
        rw [List.length_append, List.length_cons]
        omega
      have hitems := readItems_printText depth s hbound hskip ⟨by simp, by simp⟩
      simpa using readValue_bracket hitems
    | case3 h1 h2 =>
      have hbound : items.length < ('\n' :: (items.flatMap printItem ++ ']' :: rest)).length := by
        have hlength := length_le_length_flatMap_printItem items
        rw [List.length_cons, List.length_append]
        omega
      have hitems := readItems_lines depth items _ rest hbound
      simpa using readValue_bracket hitems
  start rest := by
    fun_cases printArray items <;> rfl

end PluginChain.Toml

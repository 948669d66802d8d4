import PluginChain.Toml.Printing
import PluginChain.Toml.Quoting

/-!
# Quoted texts are read as they were written

A text is written in one of four styles, and each style writes a character at a time: as itself or
as an escape. `Spells` says that a body is such a spelling of a text, where no more quotes than a
limit stand in a row as themselves. That is all the readers need: they take the spelling piece by
piece, and the quotes that close the body, with up to two more before them, are told from those that
belong to the text.

Main statements:
* `Spells.reads_one`, `Spells.reads_three`: a spelled body is read, before one closing quote or
  three.
* `spells_basicBody`, `spells_multiBasicBody`, `spells_self`: what the writers write is a spelling.
* `readText_printText`, `readOneLineText_quoteIn`: values and keys are read as they were written.
-/

namespace PluginChain.Toml

/-! ## Bodies -/

/-- Reading a body gives the text and the rest under every bound that is as long as the body. -/
def ReadsBody (piece : List Char → Option Piece) (s text rest : List Char) : Prop :=
  ∀ bound : List Char, s.length ≤ bound.length → readBody piece bound s = some (text, rest)

namespace ReadsBody

variable {piece : List Char → Option Piece} {s mid text rest : List Char} {c : Char}

theorem last (h : piece (c :: s) = some (.last text rest)) :
    ReadsBody piece (c :: s) text rest := by
  intro bound hbound
  obtain _ | ⟨_, bound⟩ := bound
  · cases hbound
  · simp only [readBody, h]

theorem inner {t : List Char} (hpiece : piece s = some (.inner t mid)) (hlt : mid.length < s.length)
    (h : ReadsBody piece mid text rest) : ReadsBody piece s (t ++ text) rest := by
  intro bound hbound
  obtain _ | ⟨_, bound⟩ := bound
  · rw [List.length_nil] at hbound
    omega
  · rw [List.length_cons] at hbound
    simp only [readBody, hpiece, h bound (by omega), Option.map_some]

end ReadsBody

/-! ## Spellings -/

/-- `form` is read as one piece that gives the character `c`, whatever comes after it, and it does
    not begin with a quote. -/
structure Form (piece : List Char → Option Piece) (quote : Char) (c : Char)
    (form : List Char) : Prop where
  reads : ∀ s, piece (form ++ s) = some (.inner [c] s)
  start : ∃ d tail, form = d :: tail ∧ d ≠ quote

/-- `body` spells `text`, where no more than `limit` quotes stand in a row as themselves; `run` is
    the number of those just before. -/
inductive Spells (piece : List Char → Option Piece) (quote : Char) (limit : Nat) :
    Nat → List Char → List Char → Prop
  | nil {run : Nat} : Spells piece quote limit run [] []
  | quote {run : Nat} {text body : List Char} (h : run < limit)
    (rest : Spells piece quote limit (run + 1) text body) :
    Spells piece quote limit run (quote :: text) (quote :: body)
  | other {run : Nat} {c : Char} {form text body : List Char} (h : Form piece quote c form)
      (rest : Spells piece quote limit 0 text body) :
      Spells piece quote limit run (c :: text) (form ++ body)

section Reading

variable {piece : List Char → Option Piece} {quote : Char} {run : Nat} {text body rest : List Char}

theorem Form.reads_before {c : Char} {form s : List Char} (h : Form piece quote c form)
    (hs : ReadsBody piece s text rest) : ReadsBody piece (form ++ s) (c :: text) rest := by
  obtain ⟨d, tail, rfl, -⟩ := h.start
  exact hs.inner (h.reads s) (by rw [List.length_append, List.length_cons]; omega)

/-- A body without quotes is read up to the quote that closes it. -/
theorem Spells.reads_one (hclose : ∀ s, piece (quote :: s) = some (.last [] s))
    (h : Spells piece quote 0 run text body) (rest : List Char) :
    ReadsBody piece (body ++ quote :: rest) text rest := by
  induction h with
  | nil => exact .last (hclose rest)
  | quote h => exact absurd h (Nat.not_lt_zero _)
  | other h _ ih =>
    rw [List.append_assoc]
    exact h.reads_before ih

/-- A text is recognised not to begin with quotes by its first character. -/
theorem isPrefixOf_of_head?_ne {s : List Char} (h : s.head? ≠ some quote) (quotes : List Char) :
    (quote :: quotes).isPrefixOf s = false := by
  obtain _ | ⟨d, s⟩ := s
  · rfl
  · have hd : quote ≠ d := fun hd => h (by simp [hd])
    simp [List.isPrefixOf, hd]

/-- Three quotes close the body, fewer stand for themselves, and a line break is a line feed. -/
structure HasThreeQuotes (piece : List Char → Option Piece) (quote : Char) : Prop where
  close : ∀ s, piece (quote :: quote :: quote :: s) = some (closingPiece quote s)
  own : ∀ {s}, [quote, quote].isPrefixOf s = false → piece (quote :: s) = some (.inner [quote] s)
  feed : ∀ {s r}, lineBreak? s = some r → piece s = some (.inner ['\n'] r)
  ne_feed : quote ≠ '\n'
  ne_return : quote ≠ '\r'

/-- Quotes do not go on into a form. -/
theorem Form.isPrefixOf_eq_false {c : Char} {form : List Char} (h : Form piece quote c form)
    (s quotes : List Char) :
    (quote :: quotes).isPrefixOf (form ++ s) = false := by
  obtain ⟨d, tail, rfl, hd⟩ := h.start
  exact isPrefixOf_of_head?_ne (by simpa using hd) quotes

/-- A body is read up to the three quotes that close it: of more quotes in a row the last three
    close it. -/
theorem Spells.reads_three (hpiece : HasThreeQuotes piece quote) (hrest : rest.head? ≠ some quote)
    (h : Spells piece quote 2 run text body) :
    ReadsBody piece (body ++ quote :: quote :: quote :: rest) text rest := by
  have hone := isPrefixOf_of_head?_ne hrest []
  have htwo := isPrefixOf_of_head?_ne hrest [quote]
  induction h with
  | nil => exact .last (by simp [hpiece.close, closingPiece, hone, htwo])
  | other h _ ih =>
    rw [List.append_assoc]
    exact h.reads_before ih
  | @quote run text body hrun h ih =>
    -- What follows this quote decides: two more quotes at the end of the text, one, or none.
    cases h with
    | nil => exact .last (by simp [hpiece.close, closingPiece, hone, List.isPrefixOf])
    | other hform h => exact ih.inner (hpiece.own (by simp [hform.isPrefixOf_eq_false])) (by simp)
    | quote hrun' h =>
      cases h with
      | nil => exact .last (by simp [hpiece.close, closingPiece, List.isPrefixOf])
      | other hform h => exact ih.inner (hpiece.own (by simp [hform.isPrefixOf_eq_false])) (by simp)
      | quote hrun'' => omega

/-- A body without quotes does not begin with one. -/
theorem Spells.head?_ne (h : Spells piece quote 0 run text body) : body.head? ≠ some quote := by
  cases h with
  | nil => simp
  | quote h => exact absurd h (Nat.not_lt_zero _)
  | other h =>
    obtain ⟨d, tail, rfl, hd⟩ := h.start
    simpa using hd

theorem lineBreak?_cons {c : Char} {s : List Char} (hn : c ≠ '\n') (hr : c ≠ '\r') :
    lineBreak? (c :: s) = none := by
  simp [lineBreak?, hn, hr]

/-- The body of a text without line feeds does not begin with a line break. -/
theorem Spells.lineBreak?_eq_none {limit : Nat} (hpiece : HasThreeQuotes piece quote)
    (h : Spells piece quote limit run text body) (htext : '\n' ∉ text) (rest : List Char) :
    lineBreak? (body ++ quote :: rest) = none := by
  cases h with
  | nil => exact lineBreak?_cons hpiece.ne_feed hpiece.ne_return
  | quote _ _ => exact lineBreak?_cons hpiece.ne_feed hpiece.ne_return
  | @other run c form text body h _ =>
    rw [List.append_assoc, Option.eq_none_iff_forall_ne_some]
    intro r hs
    have hc : c = '\n' := by
      have hfeed := hpiece.feed hs
      rw [h.reads] at hfeed
      simpa using (Piece.inner.inj (Option.some.inj hfeed)).1
    exact htext (by simp [hc])

end Reading

/-! ## Escapes -/

theorem hexValue?_hexDigit : ∀ n < 16, hexValue? (hexDigit n) = some n := by decide

/-- The four digits that write a control character are read as that character. -/
theorem readCodePoint_four {c : Char} (h : c.toNat < 256) (s : List Char) :
    readCodePoint 4 ('0' :: '0' :: hexDigit (c.toNat / 16) :: hexDigit (c.toNat % 16) :: s) =
      some (c, s) := by
  have hhigh := hexValue?_hexDigit (c.toNat / 16) (by omega)
  have hlow := hexValue?_hexDigit (c.toNat % 16) (by omega)
  have hzero : hexValue? '0' = some 0 := by decide
  have hnumber : c.toNat / 16 * 16 + c.toNat % 16 = c.toNat := by omega
  have hvalid : c.toNat.isValidChar := c.valid
  simp [readCodePoint, hexNumber?, hzero, hhigh, hlow, hnumber, hvalid]

theorem toNat_lt_of_isControl {c : Char} (h : isControl c) : c.toNat < 256 := by
  simp only [isControl, Bool.or_eq_true, Bool.and_eq_true, decide_eq_true_eq] at h
  omega

/-- What is no control character is a line feed or stands for itself. -/
theorem isVisible_of_not_isControl {c : Char} (h : isControl c = false)
    (hn : c ≠ '\n') : isVisible c := by
  by_cases ht : c = '\t'
  · simp [isVisible, ht]
  · simp only [isControl, ht, hn, Bool.or_eq_false_iff, Bool.and_eq_false_iff,
      decide_eq_false_iff_not, bne_eq_false_iff_eq, or_false] at h
    simp only [isVisible, Bool.or_eq_true, Bool.and_eq_true, decide_eq_true_eq, bne_iff_ne]
    omega

/-- Escapes are read as such, and a visible character is a piece that stands for itself. -/
structure HasEscapes (piece : List Char → Option Piece) : Prop where
  escape : ∀ {c s rest}, readEscape s = some (c, rest) → piece ('\\' :: s) = some (.inner [c] rest)
  plain : ∀ {c}, isVisible c → c ≠ '"' → c ≠ '\\' → ∀ s, piece (c :: s) = some (.inner [c] s)

namespace HasEscapes

variable {piece : List Char → Option Piece} {c : Char}

theorem form_escape (h : HasEscapes piece) (form : List Char)
    (hform : ∀ s, readEscape (form ++ s) = some (c, s)) :
    Form piece '"' c ('\\' :: form) where
  reads s := h.escape (hform s)
  start := ⟨'\\', form, rfl, by decide⟩

theorem form_escapeChar (h : HasEscapes piece) (hq : c ≠ '"') (hn : c ≠ '\n') :
    Form piece '"' c (escapeChar c) := by
  fun_cases escapeChar c with
  | case1 hc => exact h.form_escape _ fun s => hc ▸ rfl
  | case2 _ hc => exact h.form_escape _ fun s => hc ▸ rfl
  | case3 _ _ hc => exact h.form_escape _ fun s => hc ▸ rfl
  | case4 _ _ _ hc => exact h.form_escape _ fun s => hc ▸ rfl
  | case5 _ _ _ _ hc => exact h.form_escape (c := c) _ fun s => by rw [hc]; rfl
  | case6 _ _ _ _ _ hcontrol =>
    exact h.form_escape _ (readCodePoint_four (toNat_lt_of_isControl hcontrol))
  | case7 _ _ _ _ hslash hcontrol =>
    exact ⟨h.plain (isVisible_of_not_isControl (by simpa using hcontrol) hn) hq hslash,
      c, [], rfl, hq⟩

end HasEscapes

theorem hasEscapes_basicPiece : HasEscapes basicPiece where
  escape h := by simp [basicPiece, h]
  plain hv hq hs s := by simp [basicPiece, plainPiece, hv, hq, hs]

/-- No escape is taken for the hidden break at the end of a line. -/
theorem lineBreak?_skipSpaces_of_readEscape {s : List Char} {r : Char × List Char}
    (h : readEscape s = some r) :
    lineBreak? (skipSpaces s) = none := by
  fun_cases readEscape s with
  | case10 => simp [readEscape] at h
  | _ => rfl

theorem ne_of_isVisible {c : Char} (h : isVisible c) : c ≠ '\n' ∧ c ≠ '\r' := by
  constructor <;> rintro rfl <;> revert h <;> decide

/-! ## Pieces between three quotes -/

theorem isPrefixOf_three_of_ne {quote c : Char} (h : c ≠ quote) (s : List Char) :
    [quote, quote, quote].isPrefixOf (c :: s) = false :=
  isPrefixOf_of_head?_ne (by simpa using h) _

theorem isPrefixOf_three_of_two {quote : Char} {s : List Char}
    (h : [quote, quote].isPrefixOf s = false) :
    [quote, quote, quote].isPrefixOf (quote :: s) = false := by
  simpa [List.isPrefixOf] using h

/-- No line break begins with a quote. -/
theorem isPrefixOf_three_of_lineBreak? (quote : Char) {s r : List Char} (hn : quote ≠ '\n')
    (hr : quote ≠ '\r') (h : lineBreak? s = some r) :
    [quote, quote, quote].isPrefixOf s = false := by
  obtain _ | ⟨c, s⟩ := s
  · rfl
  · refine isPrefixOf_three_of_ne (fun hc => ?_) s
    simp [lineBreak?_cons (hc ▸ hn) (hc ▸ hr)] at h

theorem multiBasicPiece_cons {c : Char} {s : List Char}
    (hq : ['"', '"', '"'].isPrefixOf (c :: s) = false) (hb : lineBreak? (c :: s) = none)
    (hs : c ≠ '\\') : multiBasicPiece (c :: s) = plainPiece c s := by
  simp [multiBasicPiece, hq, hb, hs]

theorem multiLiteralPiece_cons {c : Char} {s : List Char}
    (hq : ['\'', '\'', '\''].isPrefixOf (c :: s) = false) (hb : lineBreak? (c :: s) = none) :
    multiLiteralPiece (c :: s) = plainPiece c s := by
  simp [multiLiteralPiece, hq, hb]

theorem plainPiece_of_isVisible {c : Char} (h : isVisible c) (s : List Char) :
    plainPiece c s = some (.inner [c] s) := by simp [plainPiece, h]

theorem hasThreeQuotes_multiBasicPiece : HasThreeQuotes multiBasicPiece '"' where
  close s := by simp [multiBasicPiece, List.isPrefixOf]
  own {s} h := by
    rw [multiBasicPiece_cons (isPrefixOf_three_of_two h)
      (lineBreak?_cons (by decide) (by decide)) (by decide)]
    exact plainPiece_of_isVisible (by decide) s
  feed h := by
    simp [multiBasicPiece, isPrefixOf_three_of_lineBreak? '"' (by decide) (by decide) h, h]
  ne_feed := by decide
  ne_return := by decide

theorem hasThreeQuotes_multiLiteralPiece : HasThreeQuotes multiLiteralPiece '\'' where
  close s := by simp [multiLiteralPiece, List.isPrefixOf]
  own {s} h := by
    rw [multiLiteralPiece_cons (isPrefixOf_three_of_two h)
      (lineBreak?_cons (by decide) (by decide))]
    exact plainPiece_of_isVisible (by decide) s
  feed h := by
    simp [multiLiteralPiece, isPrefixOf_three_of_lineBreak? '\'' (by decide) (by decide) h, h]
  ne_feed := by decide
  ne_return := by decide

theorem hasEscapes_multiBasicPiece : HasEscapes multiBasicPiece where
  escape {c s rest} h := by
    have hb : lineBreak? ('\\' :: s) = none := lineBreak?_cons (by decide) (by decide)
    simp [multiBasicPiece, isPrefixOf_three_of_ne, hb, lineBreak?_skipSpaces_of_readEscape h, h]
  plain {c} hv hq hs s := by
    have hbreak := ne_of_isVisible hv
    rw [multiBasicPiece_cons (isPrefixOf_three_of_ne hq s) (lineBreak?_cons hbreak.1 hbreak.2) hs]
    exact plainPiece_of_isVisible hv s

/-- Between three quotes a line feed stands for itself. -/
theorem HasThreeQuotes.form_feed {piece : List Char → Option Piece} {quote : Char}
    (h : HasThreeQuotes piece quote) :
    Form piece quote '\n' ['\n'] :=
  ⟨fun _ => h.feed rfl, '\n', [], rfl, h.ne_feed.symm⟩

/-! ## What the writers write -/

theorem spells_basicBody (s : List Char) : Spells basicPiece '"' 0 0 s (basicBody s) := by
  have hpiece := hasEscapes_basicPiece
  fun_induction basicBody s with
  | case1 => exact .nil
  | case2 rest ih => exact .other (hpiece.form_escape ['"'] fun s => rfl) ih
  | case3 rest hq ih => exact .other (hpiece.form_escape ['n'] fun s => rfl) ih
  | case4 c rest hq hn ih => exact .other (hpiece.form_escapeChar hq hn) ih

/-- After two double quotes in a row the next one is escaped, so that no three stand in a row as
    themselves. -/
theorem spells_multiBasicBody {run : Nat} (hrun : run ≤ 2) (s : List Char) :
    Spells multiBasicPiece '"' 2 run s (multiBasicBody run s) := by
  have hpiece := hasEscapes_multiBasicPiece
  fun_induction multiBasicBody run s with
  | case1 => exact .nil
  | case2 rest ih => exact .other (hpiece.form_escape ['"'] fun s => rfl) (ih (by omega))
  | case3 run rest h ih => exact .quote (by omega) (ih (by omega))
  | case4 run rest hq ih => exact .other hasThreeQuotes_multiBasicPiece.form_feed (ih (by omega))
  | case5 run c rest hq hn ih => exact .other (hpiece.form_escapeChar hq hn) (ih (by omega))

theorem le_longestRun (c : Char) (run longest : Nat) (s : List Char) :
    longest ≤ longestRun c run longest s := by
  fun_induction longestRun c run longest s with
  | case1 => exact Nat.le_refl _
  | case2 run longest rest ih => exact Nat.le_trans (Nat.le_max_left ..) ih
  | case3 run longest d rest h ih => exact ih

/-- A text whose characters all stand for themselves is its own spelling, if it has no more quotes
    in a row than allowed. -/
theorem spells_self {piece : List Char → Option Piece} {quote : Char} {limit run longest : Nat}
    {s : List Char} (hform : ∀ c ∈ s, c ≠ quote → Form piece quote c [c])
    (hlimit : longestRun quote run longest s ≤ limit) :
    Spells piece quote limit run s s := by
  fun_induction longestRun quote run longest s with
  | case1 => exact .nil
  | case2 run longest rest ih =>
    have hrun := Nat.le_trans (le_longestRun ..) hlimit
    exact .quote (by omega) (ih (fun c hc => hform c (by simp [hc])) hlimit)
  | case3 run longest d rest h ih =>
    exact .other (hform d (by simp) h) (ih (fun c hc => hform c (by simp [hc])) hlimit)

theorem form_literalPiece {c : Char} (hcontrol : isControl c = false) (hn : c ≠ '\n')
    (hq : c ≠ '\'') :
    Form literalPiece '\'' c [c] where
  reads s := by simp [literalPiece, hq, plainPiece, isVisible_of_not_isControl hcontrol hn]
  start := ⟨c, [], rfl, hq⟩

theorem form_multiLiteralPiece {c : Char} (hcontrol : isControl c = false) (hq : c ≠ '\'') :
    Form multiLiteralPiece '\'' c [c] := by
  by_cases hn : c = '\n'
  · exact hn ▸ hasThreeQuotes_multiLiteralPiece.form_feed
  · have hv := isVisible_of_not_isControl hcontrol hn
    have hbreak := ne_of_isVisible hv
    refine ⟨fun s => ?_, c, [], rfl, hq⟩
    rw [List.singleton_append,
      multiLiteralPiece_cons (isPrefixOf_three_of_ne hq s) (lineBreak?_cons hbreak.1 hbreak.2)]
    exact plainPiece_of_isVisible hv s

/-! ## Styles -/

/-- What a style asks of a text: between single quotes nothing is escaped. -/
def Style.Suits (s : List Char) : Style → Prop
  | .basic | .multiBasic => True
  | .literal => s.any isControl = false ∧ longestRun '\'' 0 0 s ≤ 0 ∧ '\n' ∉ s
  | .multiLiteral => s.any isControl = false ∧ longestRun '\'' 0 0 s ≤ 2

/-- The styles that keep a text on one line. -/
def Style.IsOneLine (style : Style) : Prop := style = .basic ∨ style = .literal

theorem Traits.style_suits (s : List Char) : (Traits.of s).style.Suits s := by
  fun_cases Traits.style (Traits.of s) <;> simp_all [Style.Suits, Traits.of]

theorem Traits.keyStyle_suits (s : List Char) :
    (Traits.of s).keyStyle.Suits s ∧ (Traits.of s).keyStyle.IsOneLine := by
  fun_cases Traits.keyStyle (Traits.of s) <;> simp_all [Style.Suits, Style.IsOneLine, Traits.of]

/-- What follows a quoted text does not begin with another quote. -/
def StartsUnquoted (rest : List Char) : Prop := rest.head? ≠ some '"' ∧ rest.head? ≠ some '\''

section Texts

variable {piece : List Char → Option Piece} {s body rest : List Char}

theorem readQuoted_of_reads (h : ReadsBody piece body s rest) :
    readQuoted piece body = some (String.ofList s, rest) := by
  simp [readQuoted, h body (Nat.le_refl _)]

/-- A text on several lines is read with the line break that follows the opening quotes, and without
    one where the text has none itself. -/
theorem readMultiQuoted_spelling {quote : Char} (hpiece : HasThreeQuotes piece quote)
    (h : Spells piece quote 2 0 s body) (hrest : rest.head? ≠ some quote) :
    readMultiQuoted piece
        ((if s.contains '\n' then ['\n'] else []) ++ body ++ [quote, quote, quote] ++ rest) =
      some (String.ofList s, rest) := by
  have hread := readQuoted_of_reads (h.reads_three hpiece hrest)
  split
  · simpa [readMultiQuoted, lineBreak?] using hread
  · rename_i hfeed
    have hnone := h.lineBreak?_eq_none hpiece (by simpa using hfeed) (quote :: quote :: rest)
    simpa [readMultiQuoted, hnone] using hread

theorem spells_literal (h : Style.Suits s .literal) : Spells literalPiece '\'' 0 0 s s :=
  spells_self (fun c hc => form_literalPiece (by simpa using List.any_eq_false.1 h.1 c hc)
    (fun hn => h.2.2 (hn ▸ hc))) h.2.1

theorem spells_multiLiteral (h : Style.Suits s .multiLiteral) :
    Spells multiLiteralPiece '\'' 2 0 s s :=
  spells_self (fun c hc => form_multiLiteralPiece (by simpa using List.any_eq_false.1 h.1 c hc)) h.2

/-- A text in a style that suits it and keeps it on one line is read as it was written. -/
theorem readOneLineText_quoteIn {style : Style} (h : style.Suits s) (hone : style.IsOneLine) :
    readOneLineText (quoteIn style s ++ rest) = some (String.ofList s, rest) := by
  rcases hone with rfl | rfl
  · simpa [quoteIn, readOneLineText] using
      readQuoted_of_reads ((spells_basicBody s).reads_one (fun s => rfl) rest)
  · simpa [quoteIn, readOneLineText] using
      readQuoted_of_reads ((spells_literal h).reads_one (fun s => rfl) rest)

/-- Two quotes with no third one after them are an empty text. -/
theorem isPrefixOf_three_spelling {quote : Char} (h : Spells piece quote 0 0 s body)
    (hrest : rest.head? ≠ some quote) :
    [quote, quote, quote].isPrefixOf (quote :: (body ++ quote :: rest)) = false := by
  refine isPrefixOf_three_of_two ?_
  obtain _ | ⟨d, body⟩ := body
  · simpa [List.isPrefixOf] using isPrefixOf_of_head?_ne hrest []
  · exact isPrefixOf_of_head?_ne (by simpa using h.head?_ne) [quote]

theorem readText_eq_readOneLineText (hdouble : ['"', '"', '"'].isPrefixOf s = false)
    (hsingle : ['\'', '\'', '\''].isPrefixOf s = false) : readText s = readOneLineText s := by
  simp [readText, hdouble, hsingle]

/-- A text in a style that suits it is read as it was written. -/
theorem readText_quoteIn {style : Style} (h : style.Suits s) (hrest : StartsUnquoted rest) :
    readText (quoteIn style s ++ rest) = some (String.ofList s, rest) := by
  cases style with
  | basic =>
    have hthree := isPrefixOf_three_spelling (spells_basicBody s) hrest.1
    rw [readText_eq_readOneLineText, readOneLineText_quoteIn h (.inl rfl)]
    · simpa [quoteIn] using hthree
    · exact isPrefixOf_three_of_ne (by decide) _
  | literal =>
    have hthree := isPrefixOf_three_spelling (spells_literal h) hrest.2
    rw [readText_eq_readOneLineText, readOneLineText_quoteIn h (.inr rfl)]
    · exact isPrefixOf_three_of_ne (by decide) _
    · simpa [quoteIn] using hthree
  | multiBasic =>
    simpa [readText, quoteIn] using
      readMultiQuoted_spelling hasThreeQuotes_multiBasicPiece
        (spells_multiBasicBody (by omega) s) hrest.1
  | multiLiteral =>
    simpa [readText, quoteIn] using
      readMultiQuoted_spelling hasThreeQuotes_multiLiteralPiece (spells_multiLiteral h) hrest.2

/-- A value is read as it was written. -/
theorem readText_printText (s : String) (hrest : StartsUnquoted rest) :
    readText (printText s ++ rest) = some (s, rest) := by
  rw [printText, readText_quoteIn (Traits.style_suits _) hrest, String.ofList_toList]

end Texts

end PluginChain.Toml

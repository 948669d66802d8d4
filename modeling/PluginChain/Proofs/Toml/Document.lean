import PluginChain.Proofs.Toml.Reading
import PluginChain.Toml.Document

/-!
# Documents are read as they were written

What a writer puts on one line is one statement, and the lines of a document are read one after the
other. Entries with new keys are then carried out without regard to what else is in the document:
they go one after the other into the table that they are for.

Main statements:
* `readStatement_printEntry`, `readStatement_printHeader`: a line is read as the statement that it
  was.
* `ReadsLines.entries`: lines of entries are read in order.
* `runAll_entries`: entries with new keys make up the table they are for.
* `parse_of_lines`: the document of entries, and of one table with entries of its own.
-/

namespace PluginChain.Toml

/-! ## Lines -/

section Lines

variable {form rest : List Char} {value : Value} {statements : List Statement}

/-- Reading lines gives the statements under every bound that is as long as the lines. -/
def ReadsLines (s : List Char) (statements : List Statement) : Prop :=
  ∀ bound : List Char, s.length ≤ bound.length → readStatements bound s = some statements

theorem printEntry_append (key : String) (form rest : List Char) :
    printEntry key form ++ rest = printKey key ++ ' ' :: '=' :: ' ' :: (form ++ '\n' :: rest) := by
  simp [printEntry, List.append_assoc]

theorem printHeader_append (key : String) (rest : List Char) :
    printHeader key ++ rest = '[' :: (printKey key ++ ']' :: '\n' :: rest) := by
  simp [printHeader, List.append_assoc]

theorem readPair_printEntry (key : String) {item : Reader Value}
    (hitem : item (skipSpaces (form ++ '\n' :: rest)) = some (value, '\n' :: rest)) :
    readPair item (printEntry key form ++ rest) = some ((⟨[], key⟩, value), '\n' :: rest) := by
  have hkey : readKey (printEntry key form ++ rest) =
      some (⟨[], key⟩, '=' :: ' ' :: (form ++ '\n' :: rest)) := by
    rw [printEntry_append]
    exact readKey_printKey key (endsKey_equals _)
  have hspace : skipSpaces (' ' :: (form ++ '\n' :: rest)) =
      skipSpaces (form ++ '\n' :: rest) := rfl
  simp only [readPair, hkey, hspace, hitem, Option.map_some]
  rfl

theorem readStatement_printEntry (key : String) (hform : Writes (depthLimit - 1) form value)
    (rest : List Char) :
    readStatement (printEntry key form ++ rest) = some (.entry ⟨[], key⟩ value, '\n' :: rest) := by
  have hpair : readPair (readValue (depthLimit - 1)) (printEntry key form ++ rest) =
      some ((⟨[], key⟩, value), '\n' :: rest) := by
    refine readPair_printEntry key ?_
    rw [hform.start, hform.reads _ ⟨by simp, by simp⟩]
  have hbracket : (printEntry key form ++ rest).head? ≠ some '[' := by
    rw [printEntry_append]
    exact ((opens_printKey key).append _).head?_ne (by decide)
  rw [readStatement.eq_def]
  split
  · rename_i heq
    exact absurd (by rw [heq]; rfl) hbracket
  · rename_i heq
    exact absurd (by rw [heq]; rfl) hbracket
  · rw [hpair]
    rfl

theorem readHeader_printKey (key : String) (rest : List Char) :
    readHeader [']'] (printKey key ++ ']' :: rest) = some (⟨[], key⟩, rest) := by
  have hkey : readKey (printKey key ++ ']' :: rest) = some (⟨[], key⟩, ']' :: rest) :=
    readKey_printKey key (endsKey_bracket rest)
  rw [readHeader, hkey]
  simp [List.isPrefixOf]

theorem readStatement_printHeader (key : String) (rest : List Char) :
    readStatement (printHeader key ++ rest) = some (.header ⟨[], key⟩, '\n' :: rest) := by
  have hheader := readHeader_printKey key ('\n' :: rest)
  obtain ⟨c, tail, hkey, hc⟩ := (opens_printKey key).append (']' :: '\n' :: rest)
  rw [printHeader_append]
  rw [hkey] at hheader ⊢
  have hbracket := hc.ne (d := '[') (by decide)
  simp [readStatement, hbracket, hheader]

namespace ReadsLines

/-- The end of the lines is read even where no round is left. -/
theorem nil : ReadsLines [] [] := by
  intro bound _
  cases bound <;> rfl

/-- An empty line says nothing. -/
theorem blank (h : ReadsLines rest statements) : ReadsLines ('\n' :: rest) statements := by
  intro bound hbound
  rw [List.length_cons] at hbound
  obtain ⟨d, bound, rfl⟩ := List.exists_cons_of_length_pos (by omega : 0 < bound.length)
  rw [List.length_cons] at hbound
  exact h bound (by omega)

/-- A line on which one statement stands, with nothing before it or after it. -/
theorem line {s : List Char} {statement : Statement} (hs : skipSpaces s = s)
    (hend : lineEnd? s = none) (hread : readStatement s = some (statement, '\n' :: rest))
    (hlt : rest.length < s.length) (h : ReadsLines rest statements) :
    ReadsLines s (statement :: statements) := by
  intro bound hbound
  obtain ⟨d, bound, rfl⟩ := List.exists_cons_of_length_pos (by omega : 0 < bound.length)
  rw [List.length_cons] at hbound
  have hrest := h bound (by omega)
  have hne : s ≠ [] := List.ne_nil_of_length_pos (by omega)
  rw [readStatements, hs]
  split
  · contradiction
  · have hbreak : lineEnd? ('\n' :: rest) = some rest := rfl
    simp only [hend, hread, hbreak, hrest, Option.map_some]

theorem entry (key : String) (hform : Writes (depthLimit - 1) form value)
    (h : ReadsLines rest statements) :
    ReadsLines (printEntry key form ++ rest) (.entry ⟨[], key⟩ value :: statements) := by
  have hread := readStatement_printEntry key hform rest
  rw [printEntry_append] at hread ⊢
  have hopens := (opens_printKey key).append (' ' :: '=' :: ' ' :: (form ++ '\n' :: rest))
  refine line hopens.skipSpaces hopens.lineEnd? hread ?_ h
  simp only [List.length_append, List.length_cons]
  omega

theorem header (key : String) (h : ReadsLines rest statements) :
    ReadsLines (printHeader key ++ rest) (.header ⟨[], key⟩ :: statements) := by
  have hread := readStatement_printHeader key rest
  rw [printHeader_append] at hread ⊢
  refine line rfl rfl hread ?_ h
  simp only [List.length_append, List.length_cons]
  omega

/-- Lines of entries are read in order. -/
theorem entries {α : Type} (items : List α) (key : α → String) {form : α → List Char}
    {value : α → Value} (hform : ∀ a, Writes (depthLimit - 1) (form a) (value a))
    (h : ReadsLines rest statements) :
    ReadsLines (items.flatMap (fun a => printEntry (key a) (form a)) ++ rest)
      (items.map (fun a => .entry ⟨[], key a⟩ (value a)) ++ statements) := by
  induction items with
  | nil => exact h
  | cons a items ih =>
    rw [List.flatMap_cons, List.append_assoc]
    exact entry _ (hform a) ih

end ReadsLines

end Lines

/-! ## Carrying out the statements -/

/-- The statement that makes an entry. -/
def Statement.ofEntry (e : String × Value) : Statement := .entry ⟨[], e.1⟩ e.2

/-- `fill` puts entries where `path` leads to: into a table with a header, the rest of the document
    around it. -/
def Leads (path : List String) (fill : Entries → Entries) : Prop :=
  ∀ f inner, Entries.within .implied f path .header (fill inner) = (f .header inner).map fill

section Statements

variable {path : List String} {fill : Entries → Entries} {key : String} {value : Value}
  {inner top items : Entries}

theorem leads_nil : Leads [] id := by
  intro f inner
  rw [Entries.within, Option.map_id]
  rfl

theorem lookup_eq_none_of_not_mem (h : key ∉ inner.map Prod.fst) : inner.lookup key = none := by
  rw [List.lookup_eq_none_iff]
  intro e he
  simpa using fun hkey : key = e.1 => h (hkey ▸ List.mem_map_of_mem he)

theorem lookup_append_last (h : key ∉ top.map Prod.fst) :
    (top ++ [(key, value)]).lookup key = some value := by
  simp [List.lookup_append, lookup_eq_none_of_not_mem h]

theorem replace_append_last (h : key ∉ top.map Prod.fst) (new : Value) :
    Entries.replace (top ++ [(key, value)]) key new = top ++ [(key, new)] := by
  have htop : top.map (fun e => if e.1 = key then (key, new) else e) = top.map id := by
    refine List.map_congr_left fun e he => if_neg fun hkey => h ?_
    exact hkey ▸ List.mem_map_of_mem he
  simp [Entries.replace, htop]

/-- A key that stands last leads to its table. -/
theorem leads_last (h : key ∉ top.map Prod.fst) :
    Leads [key] fun inner => top ++ [(key, .table .header inner)] := by
  intro f inner
  simp only [Entries.within, lookup_append_last h, replace_append_last h]
  simp

theorem run_entry (hlead : Leads path fill) (hnew : key ∉ inner.map Prod.fst) :
    Progress.run ⟨fill inner, path⟩ (.ofEntry (key, value)) =
      some ⟨fill (inner ++ [(key, value)]), path⟩ := by
  simp only [Progress.run, Statement.ofEntry]
  rw [hlead]
  simp [Entries.assign, Entries.within, lookup_eq_none_of_not_mem hnew]

/-- Entries with new keys go one after the other into the table that they are for. -/
theorem runAll_entries (hlead : Leads path fill) (hnew : ((inner ++ items).map Prod.fst).Nodup)
    (statements : List Statement) :
    Progress.runAll ⟨fill inner, path⟩ (items.map .ofEntry ++ statements) =
      Progress.runAll ⟨fill (inner ++ items), path⟩ statements := by
  induction items generalizing inner with
  | nil => simp
  | cons e items ih =>
    obtain ⟨key, value⟩ := e
    have hkey : key ∉ inner.map Prod.fst := by
      rw [List.map_append, List.nodup_append] at hnew
      exact fun h => hnew.2.2 _ h key (by simp) rfl
    rw [List.append_cons] at hnew ⊢
    rw [List.map_cons, List.cons_append, Progress.runAll, run_entry hlead hkey,
      Option.bind_some, ih hnew]

theorem run_header (h : key ∉ top.map Prod.fst) :
    Progress.run ⟨top, path⟩ (.header ⟨[], key⟩) =
      some ⟨top ++ [(key, .table .header [])], [key]⟩ := by
  simp [Progress.run, Entries.openTable, Entries.within, lookup_eq_none_of_not_mem h]

theorem skipMark_of_head?_ne {s : List Char} (h : s.head? ≠ some '\uFEFF') : skipMark s = s := by
  fun_cases skipMark s with
  | case1 rest => exact absurd rfl h
  | case2 => rfl

/-- A document of entries, and of one table with entries of its own. -/
theorem parse_of_lines {s : List Char} (hmark : s.head? ≠ some '\uFEFF')
    (hlines : ReadsLines s (top.map .ofEntry ++ .header ⟨[], key⟩ :: items.map .ofEntry))
    (htop : (top.map Prod.fst).Nodup) (hkey : key ∉ top.map Prod.fst)
    (hitems : (items.map Prod.fst).Nodup) :
    parse (String.ofList s) = some (top ++ [(key, .table .header items)]) := by
  have hentries : Progress.runAll {} (top.map .ofEntry ++ .header ⟨[], key⟩ :: items.map .ofEntry) =
      Progress.runAll ⟨top, []⟩ (.header ⟨[], key⟩ :: items.map .ofEntry) :=
    runAll_entries leads_nil (by simpa using htop) _
  have htable :
      Progress.runAll ⟨top ++ [(key, .table .header [])], [key]⟩ (items.map .ofEntry ++ []) =
      some ⟨top ++ [(key, .table .header items)], [key]⟩ :=
    runAll_entries (leads_last hkey) (by simpa using hitems) []
  rw [List.append_nil] at htable
  rw [parse, String.toList_ofList, skipMark_of_head?_ne hmark]
  simp only [hlines s (Nat.le_refl _), Option.bind_some, hentries, Progress.runAll, run_header hkey,
    htable, Option.map_some]

end Statements

end PluginChain.Toml

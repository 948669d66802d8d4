import PluginChain.Config.Document
import PluginChain.Proofs.Toml.Document

/-!
# Configurations are read as they were written

The text of a configuration is the document of its fields. No field is left to its default when that
document is read again, and the redirections, written in ascending order, are inserted in the same
order.

Main statements:
* `toml_parse_print`: the text of a configuration is the document with its fields.
* `ofEntries?_toEntries`: that document holds the configuration.
* `parse_print`: a text that was written from a configuration is read as that configuration if it is
  valid, and otherwise refused for its first defect.
* `print_injective`, `ofFile_print`: so no two configurations have the same text, and a saved file
  is read like its text.
-/

namespace PluginChain.Config

/-! ## The document of a configuration -/

/-- The entry of a text. -/
def textEntry (key text : String) : String × Toml.Value := (key, .text text)

/-- The entry of an array of texts. -/
def textsEntry (key : String) (texts : List String) :
    String × Toml.Value := (key, .array (texts.map .text))

/-- The entries of the fields before the redirections. -/
def fieldEntries (c : Config) : Toml.Entries :=
  [textEntry primaryKey c.primaryLibrary, textsEntry systemPathsKey c.systemPaths,
    textsEntry appPathsKey c.appPaths, textsEntry auxiliaryKey c.auxiliaryLibraries,
    textEntry assetsKey c.assetsDir]

/-- The entries of the redirections. -/
def redirectEntries (c : Config) : Toml.Entries :=
  c.extraRedirects.entries.map fun e => textEntry e.1 e.2

/-- The document of a configuration: its fields, and its redirections in a table of their own. -/
def toEntries (c : Config) : Toml.Entries :=
  c.fieldEntries ++ [(redirectsKey, .table .header c.redirectEntries)]

/-! ## The text is that document -/

theorem writes_text (s : String) : Toml.Writes (Toml.depthLimit - 1) (Toml.printText s) (.text s) :=
  Toml.writes_printText _ s

theorem writes_texts (items : List String) :
    Toml.Writes (Toml.depthLimit - 1) (Toml.printArray items) (.array (items.map .text)) :=
  Toml.writes_printArray 78 items

theorem nodup_redirectEntries (c : Config) : (c.redirectEntries.map Prod.fst).Nodup := by
  rw [redirectEntries, List.map_map, List.Nodup, List.pairwise_map]
  exact c.extraRedirects.ascending.imp fun hlt heq => String.ne_of_lt hlt heq

/-- The lines of a configuration are the statements that make its document. -/
theorem readsLines_print (c : Config) :
    Toml.ReadsLines c.print.toList
      (c.fieldEntries.map .ofEntry ++
        .header ⟨[], redirectsKey⟩ :: c.redirectEntries.map .ofEntry) := by
  have hredirects :=
    Toml.ReadsLines.nil.entries c.extraRedirects.entries Prod.fst fun e => writes_text e.2
  have hlines := (hredirects.header redirectsKey).blank
    |>.entry assetsKey (writes_text c.assetsDir)
    |>.entry auxiliaryKey (writes_texts c.auxiliaryLibraries)
    |>.entry appPathsKey (writes_texts c.appPaths)
    |>.entry systemPathsKey (writes_texts c.systemPaths)
    |>.entry primaryKey (writes_text c.primaryLibrary)
  simpa [print, List.append_assoc, fieldEntries, redirectEntries, textEntry, textsEntry,
    Toml.Statement.ofEntry, Function.comp_def] using hlines

theorem head?_print (c : Config) : c.print.toList.head? = some 'p' := by
  rw [print, String.toList_ofList]
  rfl

/-- The text of a configuration is its document. -/
theorem toml_parse_print (c : Config) : Toml.parse c.print = some c.toEntries := by
  have hmark : c.print.toList.head? ≠ some '\uFEFF' := by
    rw [head?_print]
    decide
  have htop : c.fieldEntries.map Prod.fst =
      [primaryKey, systemPathsKey, appPathsKey, auxiliaryKey, assetsKey] := rfl
  have hparse :=
    Toml.parse_of_lines hmark c.readsLines_print (by rw [htop]; decide) (by rw [htop]; decide)
    c.nodup_redirectEntries
  rwa [String.ofList_toList] at hparse

/-! ## The document holds the configuration -/

theorem mapM_map_of_inverse {α β : Type} {read : β → Option α} {write : α → β}
    (h : ∀ a, read (write a) = some a) (items : List α) :
    (items.map write).mapM read = some items := by
  induction items with
  | nil => rfl
  | cons a items ih => simp [h, ih]

theorem texts?_texts (items : List String) : texts? (.array (items.map .text)) = some items := by
  rw [texts?]
  refine mapM_map_of_inverse ?_ items
  exact fun s => rfl

theorem textTable?_redirectEntries (c : Config) (origin : Toml.Origin) :
    textTable? (.table origin c.redirectEntries) = some c.extraRedirects.entries := by
  rw [textTable?, redirectEntries]
  refine mapM_map_of_inverse ?_ c.extraRedirects.entries
  exact fun e => rfl

/-- Every field is read from its own entry. -/
theorem ofEntries?_toEntries (c : Config) : ofEntries? c.toEntries = some c := by
  have hprimary : field c.toEntries primaryKey stock.primaryLibrary text? =
      some c.primaryLibrary := rfl
  have hsystem : field c.toEntries systemPathsKey stock.systemPaths texts? = some c.systemPaths :=
    texts?_texts c.systemPaths
  have happ : field c.toEntries appPathsKey stock.appPaths texts? = some c.appPaths :=
    texts?_texts c.appPaths
  have hauxiliary : field c.toEntries auxiliaryKey stock.auxiliaryLibraries texts? =
      some c.auxiliaryLibraries :=
    texts?_texts c.auxiliaryLibraries
  have hassets : field c.toEntries assetsKey stock.assetsDir text? = some c.assetsDir := rfl
  have hredirects : field c.toEntries redirectsKey [] textTable? = some c.extraRedirects.entries :=
    textTable?_redirectEntries c .header
  simp only [ofEntries?, hprimary, hsystem, happ, hauxiliary, hassets, hredirects,
    Redirects.insertList_entries, Option.bind_eq_bind, Option.bind_some, Option.pure_def]

/-! ## Written and read again -/

theorem parse_print_eq_checked (c : Config) : parse c.print = c.checked := by
  simp only [parse, toml_parse_print, Option.bind_some, ofEntries?_toEntries]

/-- A text that was written from a configuration is read as that configuration, in all fields, if it
    is valid, and is otherwise refused for its first defect. -/
theorem parse_print (c : Config) :
    parse c.print =
      match c.validate with
      | .ok () => .ok c
      | .error defect => .error (.invalid defect) :=
  parse_print_eq_checked c

/-- No two configurations have the same text, whether they are valid or not. -/
theorem print_injective {c d : Config} (h : c.print = d.print) : c = d := by
  have hentries : some c.toEntries = some d.toEntries := by
    rw [← toml_parse_print, h, toml_parse_print]
  have hconfig := ofEntries?_toEntries c
  rw [Option.some.inj hentries, ofEntries?_toEntries] at hconfig
  exact (Option.some.inj hconfig).symm

/-- A configuration that was saved to a file is read like its text. -/
theorem ofFile_print (c : Config) :
    ofFile (.ok (Text.Utf8.encode c.print).toArray) = c.checked := by
  rw [ofFile, Text.Utf8.decode?_encode]
  exact parse_print_eq_checked c

end PluginChain.Config

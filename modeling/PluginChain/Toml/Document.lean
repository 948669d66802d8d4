import PluginChain.Toml.Reading

/-!
# Documents of TOML

A document is read line by line into statements: an entry, the header of a table, or the header of
one more table among others of its name. The statements are then carried out in order; each entry
goes into the table whose header came last.
-/

namespace PluginChain.Toml

/-- What a line of a document says. -/
inductive Statement where
  /-- An entry of the current table. -/
  | entry (key : Key) (value : Value)
  /-- The header of a table. -/
  | header (key : Key)
  /-- The header of one more table. -/
  | element (key : Key)

/-- Reads the key of a header and the brackets that close it. -/
def readHeader (closing : List Char) : Reader Key := fun s =>
  match readKey s with
  | none => none
  | some (key, rest) =>
    if closing.isPrefixOf rest then some (key, rest.drop closing.length) else none

/-- Reads a statement up to the end of what it says on its line. -/
def readStatement : Reader Statement
  | '[' :: '[' :: rest => (readHeader [']', ']'] rest).map fun r => (.element r.1, r.2)
  | '[' :: rest => (readHeader [']'] rest).map fun r => (.header r.1, r.2)
  | s => (readPair (readValue (depthLimit - 1)) s).map fun r => (.entry r.1.1 r.1.2, r.2)

/-- Reads the statements on all lines, of which there are no more than `bound` has characters. -/
def readStatements : (bound : List Char) → List Char → Option (List Statement)
  | [], s => if (skipSpaces s).isEmpty then some [] else none
  | _ :: bound, s =>
    match skipSpaces s with
    | [] => some []
    | s =>
      match lineEnd? s with
      | some rest => readStatements bound rest
      | none =>
        match readStatement s with
        | none => none
        | some (statement, rest) =>
          match lineEnd? rest with
          | none => none
          | some rest => (readStatements bound rest).map (statement :: ·)

/-- The text after the byte order mark at its beginning, if there is one. -/
def skipMark : List Char → List Char
  | '\uFEFF' :: rest => rest
  | s => s

/-- The document so far, and the keys that lead to the current table. -/
structure Progress where
  entries : Entries := []
  current : List String := []

/-- Carries out a statement. -/
def Progress.run (p : Progress) : Statement → Option Progress
  | .entry key value =>
    (Entries.within .implied (fun own entries => entries.assign own key value) p.current
      .header p.entries).map
      fun entries => { p with entries }
  | .header key =>
    (p.entries.openTable key).map fun entries => { entries, current := key.parents ++ [key.name] }
  | .element key =>
    (p.entries.openElement key).map fun entries => { entries, current := key.parents ++ [key.name] }

/-- Carries out statements in order. -/
def Progress.runAll (p : Progress) : List Statement → Option Progress
  | [] => some p
  | statement :: rest => (p.run statement).bind fun p => p.runAll rest

/-- The table that a document makes, if the text is one. -/
def parse (text : String) : Option Entries :=
  let s := skipMark text.toList
  (readStatements s s).bind fun statements =>
    (Progress.runAll {} statements).map (·.entries)

end PluginChain.Toml

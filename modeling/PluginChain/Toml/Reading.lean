import PluginChain.Toml.Value
import PluginChain.Toml.Quoting
import PluginChain.Toml.Moment
import PluginChain.Toml.Number

/-!
# Reading values of TOML

Arrays and tables in braces may be nested up to a limit, which bounds the recursion of the reader.
-/

namespace PluginChain.Toml

/-- Nesting and dotted keys stay below this depth. -/
def depthLimit : Nat := 80

/-! ## Keys -/

/-- Reads one part of a dotted key. -/
def readKeyPart (s : List Char) : Option (String × List Char) :=
  match s.takeWhile isBare with
  | [] => readOneLineText s
  | name => some (String.ofList name, s.dropWhile isBare)

/-- Reads at most `bound` parts of a dotted key, with the spaces around them. -/
def readKeyParts : (bound : Nat) → Reader (List String)
  | 0, _ => none
  | bound + 1, s =>
    match readKeyPart (skipSpaces s) with
    | none => none
    | some (part, rest) =>
      match skipSpaces rest with
      | '.' :: rest => (readKeyParts bound rest).map fun r => (part :: r.1, r.2)
      | rest => some ([part], rest)

/-- Reads a dotted key with the spaces around it. -/
def readKey : Reader Key := fun s =>
  match readKeyParts (depthLimit - 1) s with
  | none => none
  | some (parts, rest) =>
    parts.getLast?.map fun name => ({ parents := parts.dropLast, name }, rest)

/-! ## Values -/

/-- Reads a value that holds no other. -/
def readScalar (s : List Char) : Option (Value × List Char) :=
  match s with
  | '"' :: _ => (readText s).map fun r => (.text r.1, r.2)
  | '\'' :: _ => (readText s).map fun r => (.text r.1, r.2)
  | 't' :: 'r' :: 'u' :: 'e' :: rest => some (.boolean true, rest)
  | 'f' :: 'a' :: 'l' :: 's' :: 'e' :: rest => some (.boolean false, rest)
  | _ =>
    match readMoment s with
    | some (written, rest) => some (.moment written, rest)
    | none =>
      match readNumber s with
      | some (.integer n, rest) => some (.integer n, rest)
      | some (.fraction written, rest) => some (.fraction written, rest)
      | none => none

/-- Reads the items of an array, fewer than `bound` has characters, and its closing bracket. A comma
    may stand after the last item. -/
def readItems (item : Reader Value) : (bound : List Char) → Reader (List Value)
  | [], _ => none
  | _ :: bound, s =>
    match skipVoid s with
    | ']' :: rest => some ([], rest)
    | s =>
      match item s with
      | none => none
      | some (value, rest) =>
        match skipVoid rest with
        | ']' :: rest => some ([value], rest)
        | ',' :: rest => (readItems item bound rest).map fun r => (value :: r.1, r.2)
        | _ => none

/-- Reads a key, its value and the spaces around them. -/
def readPair (item : Reader Value) : Reader (Key × Value) := fun s =>
  match readKey s with
  | some (key, '=' :: rest) =>
    (item (skipSpaces rest)).map fun r => ((key, r.1), skipSpaces r.2)
  | _ => none

/-- Reads the pairs of a table in braces, no more than `bound` has characters, adds them to
    `entries`, and reads the closing brace. -/
def readPairs (item : Reader Value) : (bound : List Char) → Entries → Reader Entries
  | [], _, _ => none
  | _ :: bound, entries, s =>
    match readPair item s with
    | none => none
    | some ((key, value), rest) =>
      match entries.assign .inline key value with
      | none => none
      | some entries =>
        match rest with
        | '\x7d' :: rest => some (entries, rest)
        | ',' :: rest => readPairs item bound entries rest
        | _ => none

/-- Reads a value that is nested at most `depth` deep. -/
def readValue : (depth : Nat) → Reader Value
  | 0, s => readScalar s
  | depth + 1, s =>
    match s with
    | '[' :: rest =>
      (readItems (readValue depth) rest rest).map fun r => (.array r.1, r.2)
    | '\x7b' :: rest =>
      match skipSpaces rest with
      | '\x7d' :: rest => some (.table .inline [], rest)
      | rest =>
        (readPairs (readValue depth) rest [] rest).map fun r => (.table .inline r.1, r.2)
    | _ => readScalar s

end PluginChain.Toml

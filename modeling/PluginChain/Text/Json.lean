import PluginChain.Text.Quoted

/-!
# JSON

Values are written over several lines, with two spaces for each level and the fields of an object in
the order given. An empty list or object takes one line.
-/

namespace PluginChain.Text

/-- A JSON value, as far as reports need it. -/
inductive Json where
  | null
  | boolean (b : Bool)
  | number (n : Nat)
  | text (s : String)
  | list (items : List Json)
  | object (fields : List (String × Json))

namespace Json

/-- How a JSON text writes one character: short escapes where there are any, and the code point in
    four digits for every other control character. -/
def escapeChar (c : Char) : String :=
  if c = '"' then "\\\""
  else if c = '\\' then "\\\\"
  else if c = '\x08' then "\\b"
  else if c = '\t' then "\\t"
  else if c = '\n' then "\\n"
  else if c = '\x0C' then "\\f"
  else if c = '\r' then "\\r"
  else if c.toNat < 0x20 then (if c.toNat < 0x10 then "\\u000" else "\\u00") ++ hexDigits c.toNat
  else String.singleton c

/-- A JSON text with its quotes. -/
def quoteText (s : String) : String :=
  "\"" ++ String.join (s.toList.map escapeChar) ++ "\""

/-- A line break and the indentation of a level. -/
def newLine (level : Nat) : String :=
  "\n" ++ String.ofList (List.replicate (2 * level) ' ')

mutual

/-- A value whose first line is indented already; `level` is that of the line. -/
def printAt (level : Nat) : Json → String
  | null => "null"
  | boolean b => if b then "true" else "false"
  | number n => toString n
  | text s => quoteText s
  | list [] => "[]"
  | list (item :: items) =>
    "[" ++ newLine (level + 1) ++ printAt (level + 1) item ++ printItems (level + 1) items ++
      newLine level ++ "]"
  | object [] => "\x7b\x7d"
  | object (field :: fields) =>
    "\x7b" ++ newLine (level + 1) ++ printField (level + 1) field ++
      printFields (level + 1) fields ++
      newLine level ++ "\x7d"

/-- The items of a list after the first. -/
def printItems (level : Nat) : List Json → String
  | [] => ""
  | item :: items => "," ++ newLine level ++ printAt level item ++ printItems level items

/-- A field of an object. -/
def printField (level : Nat) : String × Json → String
  | (name, value) => quoteText name ++ ": " ++ printAt level value

/-- The fields of an object after the first. -/
def printFields (level : Nat) : List (String × Json) → String
  | [] => ""
  | field :: fields => "," ++ newLine level ++ printField level field ++ printFields level fields

end

/-- A value over several lines. -/
def print (value : Json) : String := printAt 0 value

end Json

end PluginChain.Text

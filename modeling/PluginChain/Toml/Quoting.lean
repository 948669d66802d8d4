import PluginChain.Toml.Chars

/-!
# Quoted texts of TOML

There are four ways to quote a text: in double quotes with escapes or in single quotes without them,
each on one line or on several. A body is read piece by piece up to the quotes that close it; the
kinds differ in their pieces only.
-/

namespace PluginChain.Toml

/-! ## Escapes -/

/-- The value of a hexadecimal digit. -/
def hexValue? (c : Char) : Option Nat :=
  if '0' ≤ c && c ≤ '9' then some (c.toNat - 0x30)
  else if 'a' ≤ c && c ≤ 'f' then some (c.toNat - 0x57)
  else if 'A' ≤ c && c ≤ 'F' then some (c.toNat - 0x37)
  else none

/-- The number that hexadecimal digits make after `high`. -/
def hexNumber? (high : Nat) : List Char → Option Nat
  | [] => some high
  | c :: rest => (hexValue? c).bind fun n => hexNumber? (high * 16 + n) rest

/-- Reads the character whose code point stands in `count` hexadecimal digits. -/
def readCodePoint (count : Nat) : Reader Char := fun s => do
  if s.length < count then none
  let n ← hexNumber? 0 (s.take count)
  if n.isValidChar then some (Char.ofNat n, s.drop count) else none

/-- Reads what follows the backslash of an escape. -/
def readEscape : Reader Char
  | 'b' :: rest => some ('\x08', rest)
  | 't' :: rest => some ('\t', rest)
  | 'n' :: rest => some ('\n', rest)
  | 'f' :: rest => some ('\x0C', rest)
  | 'r' :: rest => some ('\r', rest)
  | '"' :: rest => some ('"', rest)
  | '\\' :: rest => some ('\\', rest)
  | 'u' :: rest => readCodePoint 4 rest
  | 'U' :: rest => readCodePoint 8 rest
  | _ => none

/-! ## Pieces of a body -/

/-- What stands at one place of a body. -/
inductive Piece where
  /-- Some of the text; the body goes on. -/
  | inner (text rest : List Char)
  /-- The closing quotes, with what they leave to the text. -/
  | last (text rest : List Char)

/-- Reads a body that has no more pieces than `bound` has characters. -/
def readBody (piece : List Char → Option Piece) : (bound : List Char) → Reader (List Char)
  | [], _ => none
  | _ :: bound, s =>
    match piece s with
    | none => none
    | some (.last text rest) => some (text, rest)
    | some (.inner text rest) =>
      (readBody piece bound rest).map fun r => (text ++ r.1, r.2)

/-- A character that stands for itself. -/
def plainPiece (c : Char) (rest : List Char) : Option Piece :=
  if isVisible c then some (.inner [c] rest) else none

/-- A piece between double quotes. -/
def basicPiece : List Char → Option Piece
  | [] => none
  | c :: rest =>
    if c = '"' then some (.last [] rest)
    else if c = '\\' then (readEscape rest).map fun r => .inner [r.1] r.2
    else plainPiece c rest

/-- A piece between single quotes. -/
def literalPiece : List Char → Option Piece
  | [] => none
  | c :: rest => if c = '\'' then some (.last [] rest) else plainPiece c rest

/-- A piece between three quotes of a kind. Up to two more quotes before the closing ones belong to
    the text. -/
def closingPiece (quote : Char) (rest : List Char) : Piece :=
  if [quote, quote].isPrefixOf rest then .last [quote, quote] (rest.drop 2)
  else if [quote].isPrefixOf rest then .last [quote] (rest.drop 1)
  else .last [] rest

/-- A piece between three double quotes. A backslash at the end of a line hides the break and the
    white space after it. -/
def multiBasicPiece (s : List Char) : Option Piece :=
  if ['"', '"', '"'].isPrefixOf s then some (closingPiece '"' (s.drop 3))
  else match lineBreak? s, s with
    | some rest, _ => some (.inner ['\n'] rest)
    | none, [] => none
    | none, c :: rest =>
      if c = '\\' then
        match lineBreak? (skipSpaces rest) with
        | some rest => some (.inner [] (skipBreaks rest))
        | none => (readEscape rest).map fun r => .inner [r.1] r.2
      else plainPiece c rest

/-- A piece between three single quotes. -/
def multiLiteralPiece (s : List Char) : Option Piece :=
  if ['\'', '\'', '\''].isPrefixOf s then some (closingPiece '\'' (s.drop 3))
  else match lineBreak? s, s with
    | some rest, _ => some (.inner ['\n'] rest)
    | none, [] => none
    | none, c :: rest => plainPiece c rest

/-! ## Quoted texts -/

/-- Reads a body to its end. -/
def readQuoted (piece : List Char → Option Piece) : Reader String := fun s =>
  (readBody piece s s).map fun r => (String.ofList r.1, r.2)

/-- Reads a body on several lines; a line break right after the opening quotes is none of the
    text. -/
def readMultiQuoted (piece : List Char → Option Piece) : Reader String := fun s =>
  readQuoted piece ((lineBreak? s).getD s)

/-- Reads a text on one line, quoted in either way. -/
def readOneLineText : Reader String
  | '"' :: rest => readQuoted basicPiece rest
  | '\'' :: rest => readQuoted literalPiece rest
  | _ => none

/-- Reads a quoted text. -/
def readText (s : List Char) : Option (String × List Char) :=
  if ['"', '"', '"'].isPrefixOf s then readMultiQuoted multiBasicPiece (s.drop 3)
  else if ['\'', '\'', '\''].isPrefixOf s then readMultiQuoted multiLiteralPiece (s.drop 3)
  else readOneLineText s

end PluginChain.Toml

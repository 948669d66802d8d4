import PluginChain.Toml.Chars

/-!
# Writing TOML

A text is quoted in the first of five ways that suits what is in it. A plain text stands in double
quotes; single quotes and several lines serve texts that would need escapes; escapes serve the rest.
-/

namespace PluginChain.Toml

/-! ## What is in a text -/

/-- The characters that only an escape can write: the ASCII controls except tab and line feed. -/
def isControl (c : Char) : Bool :=
  (c.toNat ≤ 0x1F && c != '\t' && c != '\n') || c.toNat = 0x7F

/-- The greatest number of times that `c` stands in a row, where `run` is the number so far and
    `longest` the greatest so far. -/
def longestRun (c : Char) (run longest : Nat) : List Char → Nat
  | [] => longest
  | d :: rest =>
    if d = c then longestRun c (run + 1) (max longest (run + 1)) rest
    else longestRun c 0 longest rest

/-- What decides how a text is quoted. -/
structure Traits where
  /-- Whether only an escape can write one of its characters. -/
  hasControl : Bool
  hasBackslash : Bool
  hasBreak : Bool
  /-- The greatest number of double quotes in a row. -/
  doubleRun : Nat
  /-- The greatest number of single quotes in a row. -/
  singleRun : Nat

/-- The traits of a text. -/
def Traits.of (s : List Char) : Traits where
  hasControl := s.any isControl
  hasBackslash := s.contains '\\'
  hasBreak := s.contains '\n'
  doubleRun := longestRun '"' 0 0 s
  singleRun := longestRun '\'' 0 0 s

/-- A way to quote a text. -/
inductive Style where
  | basic
  | literal
  | multiBasic
  | multiLiteral
deriving DecidableEq, Repr

/-- The way to quote a value. -/
def Traits.style (t : Traits) : Style :=
  if !t.hasControl && !t.hasBackslash && t.doubleRun = 0 && !t.hasBreak then .basic
  else if !t.hasControl && t.singleRun = 0 && !t.hasBreak then .literal
  else if !t.hasControl && !t.hasBackslash && t.doubleRun ≤ 2 then .multiBasic
  else if !t.hasControl && t.singleRun ≤ 2 then .multiLiteral
  else if t.hasBreak then .multiBasic
  else .basic

/-- The way to quote a key. -/
def Traits.keyStyle (t : Traits) : Style :=
  if !t.hasControl && !t.hasBackslash && t.doubleRun = 0 && !t.hasBreak then .basic
  else if !t.hasControl && t.singleRun = 0 && !t.hasBreak then .literal
  else .basic

/-! ## Escapes -/

/-- A hexadecimal digit in upper case. -/
def hexDigit (n : Nat) : Char :=
  if n < 10 then Char.ofNat (0x30 + n) else Char.ofNat (0x37 + n)

/-- A character between double quotes, other than a double quote or a line feed. -/
def escapeChar (c : Char) : List Char :=
  if c = '\x08' then ['\\', 'b']
  else if c = '\t' then ['\\', 't']
  else if c = '\x0C' then ['\\', 'f']
  else if c = '\r' then ['\\', 'r']
  else if c = '\\' then ['\\', '\\']
  else if isControl c then ['\\', 'u', '0', '0', hexDigit (c.toNat / 16), hexDigit (c.toNat % 16)]
  else [c]

/-- A body on one line: every double quote and every line feed is escaped. -/
def basicBody : List Char → List Char
  | [] => []
  | c :: rest =>
    if c = '"' then '\\' :: '"' :: basicBody rest
    else if c = '\n' then '\\' :: 'n' :: basicBody rest
    else escapeChar c ++ basicBody rest

/-- A body on several lines: the third double quote in a row is escaped. `run` is the number of
    double quotes just before. -/
def multiBasicBody (run : Nat) : List Char → List Char
  | [] => []
  | c :: rest =>
    if c = '"' then
      if run = 2 then '\\' :: '"' :: multiBasicBody 0 rest else '"' :: multiBasicBody (run + 1) rest
    else if c = '\n' then '\n' :: multiBasicBody 0 rest
    else escapeChar c ++ multiBasicBody 0 rest

/-! ## Texts, keys and arrays -/

/-- A text between quotes, in a given style. Where a text on several lines has a line break, a break
    follows the opening quotes as well. -/
def quoteIn (style : Style) (s : List Char) : List Char :=
  let lead := if s.contains '\n' then ['\n'] else []
  match style with
  | .basic => '"' :: (basicBody s ++ ['"'])
  | .literal => '\'' :: (s ++ ['\''])
  | .multiBasic => '"' :: '"' :: '"' :: (lead ++ multiBasicBody 0 s ++ ['"', '"', '"'])
  | .multiLiteral => '\'' :: '\'' :: '\'' :: (lead ++ s ++ ['\'', '\'', '\''])

/-- A text as a value. -/
def printText (s : String) : List Char :=
  quoteIn (Traits.of s.toList).style s.toList

/-- A text as a key: without quotes where that can be. -/
def printKey (s : String) : List Char :=
  if !s.toList.isEmpty && s.toList.all isBare then s.toList
  else quoteIn (Traits.of s.toList).keyStyle s.toList

/-- An item of an array on a line of its own. -/
def printItem (s : String) : List Char :=
  [' ', ' ', ' ', ' '] ++ printText s ++ [',', '\n']

/-- An array of texts: on one line if it has at most one item, and otherwise with each item on a
    line of its own. -/
def printArray : List String → List Char
  | [] => ['[', ']']
  | [s] => '[' :: (printText s ++ [']'])
  | items => '[' :: '\n' :: (items.flatMap printItem ++ [']'])

/-- An entry on a line of its own. -/
def printEntry (key : String) (value : List Char) : List Char :=
  printKey key ++ [' ', '=', ' '] ++ value ++ ['\n']

/-- The header of a table on a line of its own. -/
def printHeader (key : String) : List Char :=
  '[' :: (printKey key ++ [']', '\n'])

end PluginChain.Toml

/-!
# Characters and white space of TOML

A reader takes a beginning of a text and yields what it says, with the rest of the text; it has no
value where the text is not as it should be. Every round of a loop takes at least one character, so
the text itself bounds the loop: each round also takes one character off a second copy.
-/

namespace PluginChain.Toml

/-- Takes a beginning of a text; yields what it says and the rest of the text. -/
abbrev Reader (α : Type) := List Char → Option (α × List Char)

/-- The characters between the words of a line. -/
def isSpace (c : Char) : Bool := c = ' ' || c = '\t'

/-- The characters that may stand for themselves in texts and comments: all but the ASCII controls,
    with the tab. -/
def isVisible (c : Char) : Bool := c = '\t' || (0x20 ≤ c.toNat && c.toNat != 0x7F)

/-- The characters of a key without quotes. -/
def isBare (c : Char) : Bool := c.isAlphanum || c = '_' || c = '-'

/-- The text after a line break, if it begins with one. -/
def lineBreak? : List Char → Option (List Char)
  | '\n' :: rest => some rest
  | '\r' :: '\n' :: rest => some rest
  | _ => none

/-- The text after the spaces at its beginning. -/
def skipSpaces (s : List Char) : List Char := s.dropWhile isSpace

/-- The text after the comment at its beginning, if there is one. -/
def skipComment : List Char → List Char
  | '#' :: rest => rest.dropWhile isVisible
  | s => s

/-- The text after the end of a line: spaces, a comment, and a line break or the end of the text. -/
def lineEnd? (s : List Char) : Option (List Char) :=
  match skipComment (skipSpaces s) with
  | [] => some []
  | rest => lineBreak? rest

/-- The text after the spaces, comments and line breaks at its beginning; `comment` says whether a
    comment has begun. A character that may not stand in a comment ends the search. -/
def skipVoidFrom (comment : Bool) : List Char → List Char
  | '\r' :: '\n' :: rest => skipVoidFrom false rest
  | c :: rest =>
    if c = '\n' then skipVoidFrom false rest
    else if comment then (if isVisible c then skipVoidFrom true rest else c :: rest)
    else if isSpace c then skipVoidFrom false rest
    else if c = '#' then skipVoidFrom true rest
    else c :: rest
  | [] => []

/-- The text after the spaces, comments and line breaks at its beginning. -/
def skipVoid (s : List Char) : List Char := skipVoidFrom false s

/-- The text after the spaces and line breaks at its beginning. -/
def skipBreaks : List Char → List Char
  | '\r' :: '\n' :: rest => skipBreaks rest
  | c :: rest => if isSpace c || c = '\n' then skipBreaks rest else c :: rest
  | [] => []

end PluginChain.Toml

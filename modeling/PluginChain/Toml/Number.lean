import PluginChain.Toml.Chars

/-!
# Numbers of TOML

Integers have 64 bits with sign and may be written in four bases; the others are decimal fractions,
infinity and not-a-number. Between two digits there may be an underscore. A number that is out of
range is none: an integer outside 64 bits, and a positive fraction that rounds to infinity.
-/

namespace PluginChain.Toml

/-- A number as it is written, without the underscores. -/
inductive Number where
  | integer (value : Int)
  | fraction (written : String)
deriving DecidableEq, Repr

/-- Reads the digits that follow a digit. An underscore must have a digit after it. -/
def readMoreDigits (isDigit : Char → Bool) : Reader (List Char)
  | [] => some ([], [])
  | [c] => if c = '_' then none else if isDigit c then some ([c], []) else some ([], [c])
  | c :: d :: rest =>
    if c = '_' then
      if isDigit d then (readMoreDigits isDigit rest).map fun r => (d :: r.1, r.2) else none
    else if isDigit c then (readMoreDigits isDigit (d :: rest)).map fun r => (c :: r.1, r.2)
    else some ([], c :: d :: rest)

/-- Reads at least one digit. -/
def readDigits (isDigit : Char → Bool) : Reader (List Char)
  | c :: rest =>
    if isDigit c then (readMoreDigits isDigit rest).map fun r => (c :: r.1, r.2) else none
  | [] => none

/-- The value of a digit in any of the four bases. -/
def digitValue (c : Char) : Nat :=
  if c.isDigit then c.toNat - 0x30 else c.toLower.toNat - 0x57

/-- The number that digits make in a base. -/
def ofDigits (base : Nat) (digits : List Char) : Nat :=
  digits.foldl (fun n c => n * base + digitValue c) 0

/-- Whether an integer has 64 bits with sign. -/
def fitsInteger (n : Int) : Bool := -0x8000000000000000 ≤ n && n < 0x8000000000000000

/-- The least number that rounds to infinity: it lies halfway between the greatest finite one and
    two to the power
    1024. -/
def infinityBound : Nat := Nat.pow 2 1024 - Nat.pow 2 970

/-- Whether `digits`, read as one number, times ten to the power `exponent` rounds to infinity. The
    number of digits decides most cases, so that no great power is computed. -/
def roundsToInfinity (digits : List Char) (exponent : Int) : Bool :=
  let significant := digits.dropWhile (· = '0')
  let magnitude := significant.length + exponent
  if significant.isEmpty || magnitude < 300 then false
  else if 400 < magnitude then true
  else
    let n := ofDigits 10 significant
    infinityBound * Nat.pow 10 (-exponent).toNat ≤ n * Nat.pow 10 exponent.toNat

/-- Reads a sign, if there is one. -/
def readSign : List Char → List Char × List Char
  | '+' :: rest => (['+'], rest)
  | '-' :: rest => (['-'], rest)
  | s => ([], s)

/-- Reads an exponent with its letter, if there is one: its written form and its value. -/
def readExponent : Reader (List Char × Int)
  | c :: rest =>
    if c = 'e' || c = 'E' then do
      let (sign, rest) := readSign rest
      let (digits, rest) ← readDigits Char.isDigit rest
      let n : Int := ofDigits 10 digits
      return (('e' :: sign ++ digits, if sign = ['-'] then -n else n), rest)
    else some (([], 0), c :: rest)
  | [] => some (([], 0), [])

/-- Reads the fraction digits with their point, if there are any. -/
def readPoint : Reader (List Char)
  | '.' :: rest => readDigits Char.isDigit rest
  | s => some ([], s)

/-- Reads the digits of a decimal integer: a zero has no digit after it. -/
def readWhole : Reader (List Char)
  | '0' :: rest => some (['0'], rest)
  | s => readDigits Char.isDigit s

/-- Reads a decimal number after its sign. -/
def readDecimal (sign : List Char) : Reader Number := fun s => do
  let (whole, s) ← readWhole s
  let (point, s) ← readPoint s
  let ((written, exponent), s) ← readExponent s
  if point.isEmpty && written.isEmpty then
    let n : Int := ofDigits 10 whole
    let n := if sign = ['-'] then -n else n
    if fitsInteger n then return (.integer n, s) else none
  else if sign != ['-'] && roundsToInfinity (whole ++ point) (exponent - point.length) then none
  else
    let point := if point.isEmpty then [] else '.' :: point
    return (.fraction (String.ofList (sign ++ whole ++ point ++ written)), s)

/-- Reads an integer in a base other than ten. -/
def readBased (base : Nat) (isDigit : Char → Bool) : Reader Number := fun s => do
  let (digits, s) ← readDigits isDigit s
  let n := ofDigits base digits
  if fitsInteger n then return (.integer n, s) else none

/-- A hexadecimal digit. -/
def isHexDigit (c : Char) : Bool :=
  c.isDigit || ('a' ≤ c && c ≤ 'f') || ('A' ≤ c && c ≤ 'F')

/-- An octal digit. -/
def isOctDigit (c : Char) : Bool := '0' ≤ c && c ≤ '7'

/-- A binary digit. -/
def isBinDigit (c : Char) : Bool := c = '0' || c = '1'

/-- Reads a number. -/
def readNumber : Reader Number
  | '0' :: 'x' :: rest => readBased 16 isHexDigit rest
  | '0' :: 'o' :: rest => readBased 8 isOctDigit rest
  | '0' :: 'b' :: rest => readBased 2 isBinDigit rest
  | s =>
    match readSign s with
    | (sign, 'i' :: 'n' :: 'f' :: rest) => some (.fraction (String.ofList sign ++ "inf"), rest)
    | (sign, 'n' :: 'a' :: 'n' :: rest) => some (.fraction (String.ofList sign ++ "nan"), rest)
    | (sign, rest) => readDecimal sign rest

end PluginChain.Toml

import PluginChain.Toml.Chars

/-!
# Dates and times of TOML

A moment is a date, a time of day, or both, and with both also an offset from universal time. It is
kept as its one written form: `T` between date and time, no zeros at the end of a fraction, and `Z`
or a signed offset.
-/

namespace PluginChain.Toml

/-- Reads a number of exactly `count` decimal digits. -/
def readFixed (count : Nat) : Reader Nat := fun s =>
  let digits := s.take count
  if digits.length = count && digits.all Char.isDigit then
    some (digits.foldl (fun n c => n * 10 + (c.toNat - 0x30)) 0, s.drop count)
  else none

/-- Reads a number of exactly `count` decimal digits between two bounds. -/
def readBetween (count low high : Nat) : Reader Nat := fun s => do
  let (n, rest) ← readFixed count s
  if low ≤ n && n ≤ high then some (n, rest) else none

/-- Takes one given character. -/
def skipChar (c : Char) : List Char → Option (List Char)
  | d :: rest => if d = c then some rest else none
  | [] => none

/-- A number in at least `width` digits. -/
def padded (width n : Nat) : String :=
  let digits := Nat.toDigits 10 n
  String.ofList (List.replicate (width - digits.length) '0' ++ digits)

/-- Whether a year has a leap day. -/
def isLeapYear (year : Nat) : Bool :=
  year % 4 = 0 && (year % 100 != 0 || year % 400 = 0)

/-- The number of days in a month. -/
def daysIn (year month : Nat) : Nat :=
  if month = 2 then (if isLeapYear year then 29 else 28)
  else if month = 4 || month = 6 || month = 9 || month = 11 then 30
  else 31

/-- Reads a date and gives its written form. -/
def readDate : Reader String := fun s => do
  let (year, s) ← readFixed 4 s
  let s ← skipChar '-' s
  let (month, s) ← readBetween 2 1 12 s
  let s ← skipChar '-' s
  let (day, s) ← readBetween 2 1 (daysIn year month) s
  return (padded 4 year ++ "-" ++ padded 2 month ++ "-" ++ padded 2 day, s)

/-- The written form of a fraction of a second: nine digits at most, without the zeros at the
    end. -/
def fractionText (digits : List Char) : String :=
  match ((digits.take 9).reverse.dropWhile (· = '0')).reverse with
  | [] => ""
  | kept => "." ++ String.ofList kept

/-- Reads a fraction of a second, if there is one. -/
def readFraction : List Char → String × List Char
  | '.' :: rest =>
    match rest.takeWhile Char.isDigit with
    | [] => ("", '.' :: rest)
    | digits => (fractionText digits, rest.dropWhile Char.isDigit)
  | s => ("", s)

/-- Reads a time of day and gives its written form. A second may be a leap second. -/
def readTime : Reader String := fun s => do
  let (hour, s) ← readBetween 2 0 23 s
  let s ← skipChar ':' s
  let (minute, s) ← readBetween 2 0 59 s
  let s ← skipChar ':' s
  let (second, s) ← readBetween 2 0 60 s
  let (fraction, s) := readFraction s
  return (padded 2 hour ++ ":" ++ padded 2 minute ++ ":" ++ padded 2 second ++ fraction, s)

/-- Reads a signed offset from universal time. An offset of nothing is written with a plus sign. -/
def readSignedOffset : Reader String
  | sign :: s => do
    if sign != '+' && sign != '-' then none
    let (hour, s) ← readBetween 2 0 23 s
    let s ← skipChar ':' s
    let (minute, s) ← readBetween 2 0 59 s
    let sign := if hour = 0 && minute = 0 then '+' else sign
    return (String.singleton sign ++ padded 2 hour ++ ":" ++ padded 2 minute, s)
  | [] => none

/-- Reads an offset, if there is one. -/
def readOffset : List Char → String × List Char
  | 'Z' :: rest => ("Z", rest)
  | 'z' :: rest => ("Z", rest)
  | s => (readSignedOffset s).getD ("", s)

/-- Reads a time after a date. -/
def readTimeAfterDate : Reader String
  | c :: s => do
    if c != 'T' && c != 't' && c != ' ' then none
    let (time, s) ← readTime s
    let (offset, s) := readOffset s
    return ("T" ++ time ++ offset, s)
  | [] => none

/-- Reads a moment and gives its written form. -/
def readMoment : Reader String := fun s =>
  match readDate s with
  | some (date, rest) =>
    match readTimeAfterDate rest with
    | some (time, rest) => some (date ++ time, rest)
    | none => some (date, rest)
  | none => readTime s

end PluginChain.Toml

import PluginChain.Text.Escaped

/-!
# Quoted text

The quoted form of a text, as records show it: double quotes around it, a backslash before a double
quote or a backslash, the short escapes for NUL, tab, line feed and carriage return, and the
hexadecimal form for every other character that cannot be seen on its own.
-/

namespace PluginChain.Text

/-- The hexadecimal digits of `n`, in lower case and without leading zeros. -/
def hexDigits (n : Nat) : String :=
  String.ofList (Nat.toDigits 16 n)

/-- Whether quoted text writes `c` by its code point. -/
def isEscaped (c : Char) : Bool :=
  c.toNat < 0x20 || (0x7F ≤ c.toNat && escaped.covers c.toNat)

/-- How quoted text writes one character. -/
def quoteChar (c : Char) : String :=
  if c = '"' then "\\\""
  else if c = '\\' then "\\\\"
  else if c = '\x00' then "\\0"
  else if c = '\t' then "\\t"
  else if c = '\n' then "\\n"
  else if c = '\r' then "\\r"
  else if isEscaped c then "\\u\x7b" ++ hexDigits c.toNat ++ "\x7d"
  else String.singleton c

/-- The quoted form of `s`. -/
def quote (s : String) : String :=
  "\"" ++ String.join (s.toList.map quoteChar) ++ "\""

end PluginChain.Text

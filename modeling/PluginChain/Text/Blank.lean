import PluginChain.Text.Ranges

/-!
# Blank text

A name or a directory made of white space alone counts as missing. White space is the Unicode
property `White_Space`, so the test also sees no-break and ideographic spaces.
-/

namespace PluginChain.Text

/-- The code points with the property `White_Space`. -/
def whiteSpace : Ranges :=
  [(0x9, 0xD), (0x20, 0x20), (0x85, 0x85), (0xA0, 0xA0), (0x1680, 0x1680), (0x2000, 0x200A),
    (0x2028, 0x2029), (0x202F, 0x202F), (0x205F, 0x205F), (0x3000, 0x3000)]

/-- Whether `c` is white space. -/
def isWhite (c : Char) : Bool :=
  whiteSpace.covers c.toNat

/-- Whether `s` holds nothing but white space; the empty text does. -/
def isBlank (s : String) : Bool :=
  s.toList.all isWhite

end PluginChain.Text

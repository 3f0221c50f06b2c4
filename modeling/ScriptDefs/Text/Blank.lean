import ScriptDefs.Text.Basic

/-!
# White space

Blank code points are those with the property White_Space and the four information separators
U+001C to U+001F.
-/

namespace ScriptDefs

namespace CodePoint

/-- Closed ranges of the blank code points. -/
def blankRanges : List (Nat × Nat) :=
  [(0x09, 0x0D), (0x1C, 0x20), (0x85, 0x85), (0xA0, 0xA0), (0x1680, 0x1680), (0x2000, 0x200A),
    (0x2028, 0x2029), (0x202F, 0x202F), (0x205F, 0x205F), (0x3000, 0x3000)]

/-- The code point is white space. -/
def isBlank (c : CodePoint) : Bool := Text.inRanges blankRanges c.toNat

/-- White space that may stand around a numeral, which is all but the information separators. -/
def isMargin (c : CodePoint) : Bool := c.isBlank && !(0x1C ≤ c.toNat && c.toNat ≤ 0x1F)

end CodePoint

namespace Text

/-- The text without the white space before it. -/
def trimStart (t : Text) : Text := t.dropWhile CodePoint.isBlank

/-- The text without the white space before and after it. -/
def trim (t : Text) : Text := (trimStart (trimStart t).reverse).reverse

/-- The text without what may stand around a numeral. -/
def withoutMargins (t : Text) : Text :=
  ((t.dropWhile CodePoint.isMargin).reverse.dropWhile CodePoint.isMargin).reverse

end Text

end ScriptDefs

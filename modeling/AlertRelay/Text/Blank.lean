import AlertRelay.Text.Ranges

/-!
# Blanks around a text

## Main definitions

* `isBlank`: the characters that count as white space.
* `trimBy`: a text without the leading and trailing characters of a class.
* `strip`: a text without the blanks around it.
-/

namespace AlertRelay.Text

/-- Spaces, line and paragraph separators, and the controls that separate text. -/
def blankRanges : List (Nat × Nat) :=
  [(0x9, 0xd), (0x1c, 0x20), (0x85, 0x85), (0xa0, 0xa0), (0x1680, 0x1680), (0x2000, 0x200a),
   (0x2028, 0x2029), (0x202f, 0x202f), (0x205f, 0x205f), (0x3000, 0x3000)]

/-- Whether a character is white space. -/
def isBlank (c : Char) : Bool := inRanges blankRanges c.toNat

/-- The four information separators are blanks, but no numeral may be surrounded by them. -/
def isNumeralBlank (c : Char) : Bool :=
  isBlank c && !(decide (0x1c ≤ c.toNat) && decide (c.toNat ≤ 0x1f))

/-- Drops the characters of a class from both ends. -/
def trimBy (p : Char → Bool) (s : List Char) : List Char :=
  ((s.dropWhile p).reverse.dropWhile p).reverse

/-- The text without the blanks around it. -/
def strip (s : String) : String := String.ofList (trimBy isBlank s.toList)

end AlertRelay.Text

/-!
# Surrogates

A character beyond the basic plane is spelled by a pair of units, a high and a low surrogate. A
surrogate that is alone is no character, and a text cannot hold it. It counts as the replacement
character here, so that a text which was read with that character may stand for one that cannot be
written in UTF-8. Where this makes a difference, the replacement character is excluded.

## Main definitions

* `isHighSurrogate`, `isLowSurrogate`: the two halves of a pair.
* `joinSurrogates`: the character of a pair.
* `unitChar`: the character of a single unit.
-/

namespace AlertRelay.Text

/-- Stands for what is no text. -/
def replacementChar : Char := Char.ofNat 0xfffd

/-- The first half of a pair. -/
def isHighSurrogate (unit : Nat) : Bool := decide (0xd800 ≤ unit) && decide (unit ≤ 0xdbff)

/-- The second half of a pair. -/
def isLowSurrogate (unit : Nat) : Bool := decide (0xdc00 ≤ unit) && decide (unit ≤ 0xdfff)

/-- The character that a pair spells. -/
def joinSurrogates (high low : Nat) : Char :=
  Char.ofNat (0x10000 + (high - 0xd800) * 0x400 + (low - 0xdc00))

/-- The character of a unit that stands alone. -/
def unitChar (unit : Nat) : Char :=
  if isHighSurrogate unit || isLowSurrogate unit then replacementChar else Char.ofNat unit

end AlertRelay.Text

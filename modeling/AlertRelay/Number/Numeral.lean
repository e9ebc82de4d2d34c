import AlertRelay.Number.Binary64
import AlertRelay.Number.Digit
import AlertRelay.Text.Blank
import AlertRelay.Text.Case

/-!
# Numerals

How numbers are written as text: a sign, digits that single underscores may separate, and for
floating point numbers a fraction, an exponent, or the words for infinity and not-a-number.

## Main definitions

* `readInteger?`, `readFloat?`: the numbers written with ASCII digits, nothing around them.
* `plainNumeral`: a text with the digits of all scripts made ASCII and the blanks around it gone.
-/

namespace AlertRelay.Number

open AlertRelay.Text

/-- The most digits of an integer that are converted. -/
def digitLimit : Nat := 4300

/-- Splits a sign off; `true` stands for a minus. -/
def splitSign : List Char → Bool × List Char
  | '-' :: rest => (true, rest)
  | '+' :: rest => (false, rest)
  | s => (false, s)

/-- Drops the underscores, each of which must stand between two digits. `afterDigit` tells
whether a digit stands before the text. -/
def dropSeparators? (afterDigit : Bool) : List Char → Option (List Char)
  | [] => some []
  | '_' :: c :: rest =>
    if afterDigit && isAsciiDigit c then (dropSeparators? true rest).map (c :: ·) else none
  | c :: rest =>
    if c = '_' then none else (dropSeparators? (isAsciiDigit c) rest).map (c :: ·)

/-- Splits the leading digits off. -/
def splitDigits (s : List Char) : List Char × List Char :=
  (s.takeWhile isAsciiDigit, s.dropWhile isAsciiDigit)

/-- An integer with an optional sign. -/
def readInteger? (s : List Char) : Option Int := do
  let plain ← dropSeparators? false s
  let (negative, body) := splitSign plain
  let (digits, rest) := splitDigits body
  if digits = [] ∨ rest ≠ [] then none
  else
    let n := digitsValue digits
    return if negative then -n else n

/-- The fraction after an optional point, and what follows it. -/
def splitFraction : List Char → List Char × List Char
  | '.' :: rest => splitDigits rest
  | s => ([], s)

/-- An exponent that ends the text; none counts as zero. -/
def readExponent? : List Char → Option Int
  | [] => some 0
  | c :: rest =>
    if c = 'e' ∨ c = 'E' then
      let (negative, body) := splitSign rest
      let (digits, after) := splitDigits body
      if digits = [] ∨ after ≠ [] then none
      else some (if negative then -(digitsValue digits) else digitsValue digits)
    else
      none

/-- A decimal without a sign. -/
def readDecimal? (negative : Bool) (s : List Char) : Option Binary64 := do
  let (whole, afterWhole) := splitDigits s
  let (fraction, afterFraction) := splitFraction afterWhole
  if whole = [] ∧ fraction = [] then none
  else
    let exponent ← readExponent? afterFraction
    return .ofDecimal negative (digitsValue (whole ++ fraction)) (exponent - fraction.length)

/-- A floating point number with an optional sign and no underscores. -/
def readPlainFloat? (s : List Char) : Option Binary64 :=
  let (negative, body) := splitSign s
  let word := String.ofList (body.map asciiLowerChar)
  if word = "inf" ∨ word = "infinity" then some (.infinite negative)
  else if word = "nan" then some .nan
  else readDecimal? negative body

/-- A floating point number with an optional sign, with underscores between digits only. -/
def readFloat? (s : List Char) : Option Binary64 := do
  let plain ← dropSeparators? false s
  readPlainFloat? plain

/-- A character of a numeral with the digits of all scripts made ASCII. -/
def plainDigit (c : Char) : Char :=
  match decimalDigit? c with
  | some d => Char.ofNat ('0'.toNat + d)
  | none => c

/-- The numeral that a text holds between blanks. -/
def plainNumeral (s : String) : List Char := (trimBy isNumeralBlank s.toList).map plainDigit

end AlertRelay.Number

/-!
# Binary floating point numbers of 64 bits

A number is kept as the integers that define it, so that reading and printing are exact
computations on natural numbers.

## Main definitions

* `Binary64`: not-a-number, the two infinities, and `± mantissa * 2 ^ exponent`.
* `Binary64.ofRatio`: the nearest number to a fraction, a tie going to the even mantissa.
* `Binary64.ofDecimal`, `Binary64.ofInt`: the nearest number to a decimal and to an integer.
-/

namespace AlertRelay.Number

/-- A floating point number. A finite one has `mantissa < 2 ^ 53`, and either the exponent is
the least one, `-1074`, or the mantissa is at least `2 ^ 52`; the functions below build no
other. -/
inductive Binary64
  | nan
  | infinite (negative : Bool)
  | finite (negative : Bool) (mantissa : Nat) (exponent : Int)
  deriving DecidableEq, Repr, Inhabited

namespace Binary64

/-- The least exponent of a finite number. -/
def minExponent : Int := -1074

/-- The greatest exponent of a finite number. -/
def maxExponent : Int := 971

/-- Zero with a sign. -/
def zero (negative : Bool) : Binary64 := .finite negative 0 minExponent

/-- `num / den * 2 ^ (-exponent)` as a fraction. -/
def scaleDown (num den : Nat) (exponent : Int) : Nat × Nat :=
  if exponent < 0 then (num * Nat.pow 2 (-exponent).toNat, den)
  else (num, den * Nat.pow 2 exponent.toNat)

/-- The integer nearest to `num / den`; of two, the even one. -/
def roundRatio (num den : Nat) : Nat :=
  let q := num / den
  let twice := 2 * (num % den)
  if twice < den then q
  else if den < twice then q + 1
  else q + q % 2

/-- The exponent at which `num / den` has a mantissa of 53 bits, or the least exponent. -/
def exponentOf (num den : Nat) : Int :=
  let guess : Int := (num.log2 : Int) - den.log2 - 52
  let (n, d) := scaleDown num den guess
  max minExponent (if n / d < Nat.pow 2 52 then guess - 1 else guess)

/-- The finite number `mantissa * 2 ^ exponent`, where rounding may have carried the mantissa to
its limit; infinite beyond the greatest exponent. -/
def assemble (negative : Bool) (mantissa : Nat) (exponent : Int) : Binary64 :=
  let (m, e) := if mantissa = Nat.pow 2 53 then (Nat.pow 2 52, exponent + 1) else (mantissa, exponent)
  if maxExponent < e then .infinite negative else .finite negative m e

/-- The number nearest to `± num / den`, for a denominator that is not zero. -/
def ofRatio (negative : Bool) (num den : Nat) : Binary64 :=
  if num = 0 then
    zero negative
  else
    let exponent := exponentOf num den
    let (n, d) := scaleDown num den exponent
    assemble negative (roundRatio n d) exponent

/-- The number nearest to `± digits * 10 ^ exponent`. Decimals far beyond the largest and far
below the least number are decided by their size alone. -/
def ofDecimal (negative : Bool) (digits : Nat) (exponent : Int) : Binary64 :=
  if digits = 0 then
    zero negative
  else
    let size : Int := (Nat.toDigits 10 digits).length + exponent
    if 310 < size then .infinite negative
    else if size < -330 then zero negative
    else if exponent < 0 then ofRatio negative digits (Nat.pow 10 (-exponent).toNat)
    else ofRatio negative (digits * Nat.pow 10 exponent.toNat) 1

/-- The number nearest to an integer. -/
def ofInt (i : Int) : Binary64 := ofRatio (decide (i < 0)) i.natAbs 1

/-- The integer that a number is, when it is one. -/
def toInt? : Binary64 → Option Int
  | .finite negative mantissa exponent =>
    let (num, den) := scaleDown mantissa 1 (-exponent)
    if num % den = 0 then
      some (if negative then -(num / den : Nat) else (num / den : Nat))
    else
      none
  | _ => none

end Binary64

end AlertRelay.Number

import AlertRelay.Number.Binary64

/-!
# Shortest decimal text

The text of a floating point number has the fewest digits that read back as that number, and of
those digits the ones nearest to it.

## Main definitions

* `Interval`: the fractions that round to a number.
* `shortest`: the digits and the place of the point.
* `Binary64.render`: the text.
-/

namespace AlertRelay.Number

/-- A positive number and the ends of the interval of fractions that round to it, all over one
denominator; `closed` tells whether the ends belong to it. -/
structure Interval where
  low : Nat
  value : Nat
  high : Nat
  den : Nat
  closed : Bool
  deriving DecidableEq, Repr

/-- The interval of `mantissa * 2 ^ exponent`. It reaches half a step to both sides, but only a
quarter of one down from a power of two, where the steps become finer. -/
def Interval.of (mantissa : Nat) (exponent : Int) : Interval :=
  let up := Nat.pow 2 exponent.toNat
  let down := Nat.pow 2 (-exponent).toNat
  let finer := mantissa = Nat.pow 2 52 ∧ exponent ≠ Binary64.minExponent
  { low := (4 * mantissa - (if finer then 1 else 2)) * up
    value := 4 * mantissa * up
    high := (4 * mantissa + 2) * up
    den := 4 * down
    closed := mantissa % 2 = 0 }

/-- Whether `num / den`, over a denominator that may differ, lies in the interval. -/
def Interval.contains (i : Interval) (num den : Nat) : Bool :=
  let point := num * i.den
  if i.closed then decide (i.low * den ≤ point) && decide (point ≤ i.high * den)
  else decide (i.low * den < point) && decide (point < i.high * den)

/-- How many zeros follow the decimal point of `num / den < 1`, looking no further than `limit`. -/
def leadingZeros (limit num den : Nat) : Nat :=
  match limit with
  | 0 => 0
  | limit + 1 => if den ≤ num * 10 then 0 else leadingZeros limit (num * 10) den + 1

/-- The place of the decimal point: `num / den` is below ten to this power and not below the
power before it. -/
def pointPlace (num den : Nat) : Int :=
  if den ≤ num then (Nat.toDigits 10 (num / den)).length else -(leadingZeros 400 num den : Int)

/-- The digits `d` at the grid of step `10 ^ scale` that lie in the interval, the nearest first
choice; of two equally near ones the even one. -/
def Interval.onGrid? (i : Interval) (scale : Int) : Option Nat :=
  let up := Nat.pow 10 scale.toNat
  let down := Nat.pow 10 (-scale).toNat
  let num := i.value * down
  let den := i.den * up
  let below := num / den
  let above := below + 1
  let inside (d : Nat) : Bool := i.contains (d * up) down
  let twice := 2 * (num % den)
  let aboveIsNearer := decide (den < twice) || (decide (twice = den) && below % 2 = 1)
  if inside below && inside above then
    some (if aboveIsNearer then above else below)
  else if inside below then some below
  else if inside above then some above
  else none

/-- The fewest digits that lie in the interval, and the place of the decimal point before them.
Seventeen digits always suffice. -/
def Interval.shortest (i : Interval) : List Char × Int :=
  let place := pointPlace i.value i.den
  let found := (List.range 17).findSome? fun (n : Nat) =>
    (i.onGrid? (place - (n + 1))).map fun d => (Nat.toDigits 10 d, n + 1)
  match found with
  | some (digits, count) =>
    let trimmed := (digits.reverse.dropWhile (· = '0')).reverse
    (trimmed, place + (digits.length - count : Int))
  | none => (['0'], 1)

/-- Digits with a point, written positionally; a whole number ends in `.0`. -/
def positional (digits : List Char) (place : Int) : List Char :=
  if place ≤ 0 then
    '0' :: '.' :: List.replicate (-place).toNat '0' ++ digits
  else
    let whole := place.toNat
    let fraction := digits.drop whole
    digits.take whole ++ List.replicate (whole - digits.length) '0' ++
      '.' :: (if fraction = [] then ['0'] else fraction)

/-- Digits with a power of ten, whose exponent has a sign and at least two digits. -/
def scientific (digits : List Char) (place : Int) : List Char :=
  let exponent := place - 1
  let size := Nat.toDigits 10 exponent.natAbs
  let rest := digits.drop 1
  digits.take 1 ++ (if rest = [] then [] else '.' :: rest) ++
    'e' :: (if exponent < 0 then '-' else '+') :: List.replicate (2 - size.length) '0' ++ size

/-- Positional notation serves from `0.0001` up to below `10 ^ 16`, powers of ten elsewhere. -/
def layOut (digits : List Char) (place : Int) : List Char :=
  if -4 < place ∧ place ≤ 16 then positional digits place else scientific digits place

/-- The text of a number. -/
def Binary64.render : Binary64 → String
  | .nan => "nan"
  | .infinite negative => if negative then "-inf" else "inf"
  | .finite negative mantissa exponent =>
    let (digits, place) :=
      if mantissa = 0 then (['0'], 1) else (Interval.of mantissa exponent).shortest
    let text := layOut digits place
    String.ofList (if negative then '-' :: text else text)

end AlertRelay.Number

import AlertRelay.Number.Digit

/-!
# Punycode

The encoding of any text by ASCII letters, digits and hyphens: the ASCII characters come first,
then for each other character, in ascending order, how far away the next one is.

## Main definitions

* `encodePunycode`, `decodePunycode?`: the encoding and its inverse.
-/

namespace AlertRelay.Host

/-- The digits 0 to 35 as letters and digits. -/
def punyDigit (d : Nat) : Char := Char.ofNat (if d < 26 then 'a'.toNat + d else '0'.toNat + (d - 26))

/-- The value of a digit, in either case. -/
def punyValue? (c : Char) : Option Nat :=
  if 'a' ≤ c ∧ c ≤ 'z' then some (c.toNat - 'a'.toNat)
  else if 'A' ≤ c ∧ c ≤ 'Z' then some (c.toNat - 'A'.toNat)
  else if '0' ≤ c ∧ c ≤ '9' then some (c.toNat - '0'.toNat + 26)
  else none

/-- The least value of a digit that is not the last one of its number. -/
def threshold (k bias : Nat) : Nat := min 26 (max 1 (k - bias))

/-- Shrinks a distance until it is small, counting the steps by 36. -/
def shrink (delta k : Nat) : Nat × Nat :=
  if 455 < delta then shrink (delta / 35) (k + 36) else (delta, k)
termination_by delta
decreasing_by exact Nat.div_lt_self (by omega) (by omega)

/-- The bias after a distance, when `count` characters are known. -/
def adapt (delta count : Nat) (isFirst : Bool) : Nat :=
  let halved := if isFirst then delta / 700 else delta / 2
  let (rest, k) := shrink (halved + halved / count) 0
  k + 36 * rest / (rest + 38)

/-- The digits of a distance, least significant first. -/
def writeDelta (bias k q : Nat) : List Char :=
  let t := threshold k bias
  if q < t then [punyDigit q]
  else punyDigit (t + (q - t) % (36 - t)) :: writeDelta bias (k + 36) ((q - t) / (36 - t))
termination_by q
decreasing_by
  have h : 1 ≤ threshold k bias := by unfold threshold; omega
  calc (q - threshold k bias) / (36 - threshold k bias)
      ≤ q - threshold k bias := Nat.div_le_self _ _
    _ < q := by omega

/-- The state of the encoder: the output so far, the distance that has accumulated, the bias, and
the number of characters that are already encoded. -/
structure PunyWriter where
  out : List Char
  delta : Nat
  bias : Nat
  known : Nat

/-- Passes one character of the text while the characters of code `code` are encoded. -/
def PunyWriter.pass (basic code : Nat) (w : PunyWriter) (c : Char) : PunyWriter :=
  if c.toNat < code then { w with delta := w.delta + 1 }
  else if c.toNat = code then
    { out := w.out ++ writeDelta w.bias 36 w.delta
      delta := 0
      bias := adapt w.delta (w.known + 1) (w.known = basic)
      known := w.known + 1 }
  else w

/-- Encodes the characters of the given codes, ascending, of which those below `next` are done. -/
def writeCodes (s : List Char) (basic next : Nat) (w : PunyWriter) : List Nat → List Char
  | [] => w.out
  | code :: rest =>
    let w := { w with delta := w.delta + (code - next) * (w.known + 1) }
    let w := s.foldl (PunyWriter.pass basic code) w
    writeCodes s basic (code + 1) { w with delta := w.delta + 1 } rest

/-- The encoding of a text. -/
def encodePunycode (s : List Char) : List Char :=
  let basic := s.filter (·.toNat < 0x80)
  let codes := ((s.filter (0x80 ≤ ·.toNat)).map Char.toNat).mergeSort.eraseDups
  let start := if basic = [] then [] else basic ++ ['-']
  writeCodes s basic.length 0x80 ⟨start, 0, 72, basic.length⟩ codes

/-- Reads a distance: digits up to the first that is below its threshold. -/
def readDelta? (bias k weight sum : Nat) : List Char → Option (Nat × List Char)
  | [] => none
  | c :: rest => do
    let digit ← punyValue? c
    let t := threshold k bias
    let sum := sum + digit * weight
    if digit < t then return (sum, rest)
    else readDelta? bias (k + 36) (weight * (36 - t)) sum rest

/-- Inserts the characters that the remaining digits spell. `place` is one more than the place
of the last insertion; the fuel bounds the number of insertions. -/
def insertCodes? (fuel code place bias : Nat) (isFirst : Bool) (done digits : List Char) :
    Option (List Char) :=
  match fuel, digits with
  | _, [] => some done
  | 0, _ => none
  | fuel + 1, _ => do
    let (delta, rest) ← readDelta? bias 36 1 0 digits
    let count := done.length + 1
    let target := place + delta
    let code := code + target / count
    if 0x10ffff < code ∨ (0xd800 ≤ code ∧ code < 0xe000) then none
    else
      let spot := target % count
      let text := done.take spot ++ Char.ofNat code :: done.drop spot
      insertCodes? fuel code (spot + 1) (adapt delta count isFirst) false text rest

/-- The text of an encoding, whose last hyphen ends the ASCII characters. -/
def decodePunycode? (s : List Char) : Option (List Char) :=
  let digits := (s.reverse.takeWhile (· ≠ '-')).reverse
  let basic := s.take (s.length - digits.length - 1)
  insertCodes? digits.length 0x80 0 72 true basic digits

end AlertRelay.Host

import AlertRelay.Text.ComposeTable

/-!
# Canonical composition

Whether a text is in the normal form in which every letter is combined with its marks as far as
Unicode has a character for the combination.

## Main definitions

* `decompose`, `reorder`, `compose`: the three steps of normalisation.
* `isComposed`: whether normalisation leaves a text as it is.
-/

namespace AlertRelay.Text

/-- The place of a mark around its letter; 0 for everything that is no mark. -/
def combiningClass (c : Char) : Nat :=
  match combiningClassRanges.find? fun r => decide (r.1 ≤ c.toNat) && decide (c.toNat ≤ r.2.1) with
  | some r => r.2.2
  | none => 0

/-- The parts of a Hangul syllable. -/
def hangulParts? (n : Nat) : Option (List Nat) :=
  if 0xac00 ≤ n ∧ n < 0xac00 + 11172 then
    let i := n - 0xac00
    let tail := i % 28
    some ([0x1100 + i / 588, 0x1161 + i % 588 / 28] ++ if tail = 0 then [] else [0x11a7 + tail])
  else
    none

/-- A character taken apart; of the composed characters the first part may be composed again. -/
def decomposeChar (depth : Nat) (c : Char) : List Char :=
  match depth with
  | 0 => [c]
  | depth + 1 =>
    match hangulParts? c.toNat with
    | some parts => parts.map Char.ofNat
    | none =>
      match compositions.find? fun r => r.1 = c.toNat with
      | some (_, first, second) => decomposeChar depth (Char.ofNat first) ++ [Char.ofNat second]
      | none => [c]

/-- A text with all characters taken apart. -/
def decompose (s : List Char) : List Char := s.flatMap (decomposeChar 4)

/-- Puts a character in front of a text, behind those marks that must come earlier. -/
def insertMark (c : Char) : List Char → List Char
  | [] => [c]
  | d :: rest =>
    if combiningClass c ≠ 0 ∧ combiningClass d ≠ 0 ∧ combiningClass d < combiningClass c then
      d :: insertMark c rest
    else
      c :: d :: rest

/-- A text with the marks of each letter in the order of their places. -/
def reorder (s : List Char) : List Char := s.foldr insertMark []

/-- The character that two characters compose to. -/
def composePair? (a b : Char) : Option Char :=
  let first := a.toNat
  let second := b.toNat
  if 0x1100 ≤ first ∧ first < 0x1113 ∧ 0x1161 ≤ second ∧ second < 0x1176 then
    some (Char.ofNat (0xac00 + ((first - 0x1100) * 21 + (second - 0x1161)) * 28))
  else if 0xac00 ≤ first ∧ first < 0xac00 + 11172 ∧ (first - 0xac00) % 28 = 0 ∧
      0x11a8 ≤ second ∧ second < 0x11c3 then
    some (Char.ofNat (first + (second - 0x11a7)))
  else
    (compositions.find? fun r => r.2.1 = first ∧ r.2.2 = second).map fun r => Char.ofNat r.1

/-- Composes what follows a letter. `letter` is the last character that marks may combine with,
`marks` holds the reverse of what stands after it uncombined. -/
def composeFrom (letter : Char) (marks : List Char) : List Char → List Char
  | [] => letter :: marks.reverse
  | c :: rest =>
    let blocked :=
      match marks with
      | [] => false
      | last :: _ => decide (combiningClass c ≤ combiningClass last)
    match if blocked then none else composePair? letter c with
    | some composed => composeFrom composed marks rest
    | none =>
      if combiningClass c = 0 then letter :: marks.reverse ++ composeFrom c [] rest
      else composeFrom letter (c :: marks) rest

/-- Composes a text whose marks are in order; marks in front of the first letter stay. -/
def compose (s : List Char) : List Char :=
  let leading := s.takeWhile (combiningClass · ≠ 0)
  match s.dropWhile (combiningClass · ≠ 0) with
  | [] => leading
  | letter :: rest => leading ++ composeFrom letter [] rest

/-- Whether a text is its own composed form. -/
def isComposed (s : List Char) : Bool :=
  s.all (fun c => !inRanges uncomposedRanges c.toNat) && compose (reorder (decompose s)) = s

end AlertRelay.Text

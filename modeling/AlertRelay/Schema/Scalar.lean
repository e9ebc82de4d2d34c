import AlertRelay.Schema.Checked
import AlertRelay.Number.Numeral

/-!
# Scalars of a document

Texts are taken as they are. Flags, integers and floating point numbers are also taken from the
other kinds of scalars that spell them.

## Main definitions

* `text`, `flag`, `integer`, `number`: the readers of scalars.
-/

namespace AlertRelay.Schema

open AlertRelay.Number AlertRelay.Text

/-- Reads a text; nothing else is taken for one. -/
def text : Reader String
  | .string s => .valid s
  | _ => .fail .notText

/-- The words for false and for true, in any case. -/
def flagWord? (s : String) : Option Bool :=
  let word := asciiLower s
  if ["0", "off", "f", "false", "n", "no"].contains word then some false
  else if ["1", "on", "t", "true", "y", "yes"].contains word then some true
  else none

/-- Zero is false and one is true. -/
def flagOfInt (i : Int) : Checked Bool :=
  if i = 0 then .valid false
  else if i = 1 then .valid true
  else .fail .unreadableFlag

/-- The first number beyond the integers of 64 bits, one of which is a sign. -/
def wordLimit : Int := 0x8000000000000000

/-- The integer that a floating point number without fraction is, if it is one of 64 bits. The
smallest of these does not count. -/
def integerOfFloat (x : Binary64) : Checked Int :=
  match x with
  | .finite .. =>
    match x.toInt? with
    | some i => if -wordLimit < i ∧ i < wordLimit then .valid i else .fail .overlongInteger
    | none => .fail .fractional
  | _ => .fail .notFinite

/-- Reads a flag: a boolean, a word, or a number of 64 bits that is zero or one. -/
def flag : Reader Bool
  | .bool b => .valid b
  | .string s =>
    match flagWord? s with
    | some b => .valid b
    | none => .fail .unreadableFlag
  | .int i => if -wordLimit ≤ i ∧ i < wordLimit then flagOfInt i else .fail .notFlag
  | .float x =>
    match integerOfFloat x with
    | .valid i => flagOfInt i
    | .faulty _ => .fail .notFlag
  | _ => .fail .notFlag

/-- The whole part of a numeral whose fraction, if any, is one or more zeros. -/
def dropZeroFraction? (s : List Char) : Option (List Char) :=
  let whole := s.takeWhile (· ≠ '.')
  match s.dropWhile (· ≠ '.') with
  | [] => some whole
  | _ :: fraction =>
    if fraction ≠ [] && fraction.all (· = '0') then some whole else none

/-- Reads an integer from a text. -/
def integerOfText (s : String) : Checked Int :=
  match dropZeroFraction? (trimBy isNumeralBlank s.toList) with
  | none => .fail .unreadableInteger
  | some whole =>
    match readInteger? whole with
    | none => .fail .unreadableInteger
    | some i =>
      if digitLimit < (Nat.toDigits 10 i.natAbs).length then .fail .overlongInteger
      else .valid i

/-- Reads an integer: also a boolean, a floating point number without fraction, or a text. -/
def integer : Reader Int
  | .int i => .valid i
  | .bool b => .valid (if b then 1 else 0)
  | .float x => integerOfFloat x
  | .string s => integerOfText s
  | _ => .fail .notInteger

/-- A text without its underscores, none of which stands at an end or beside another. -/
def dropUnderscores? (s : List Char) : Option (List Char) :=
  let pieces := s.splitOn '_'
  if pieces.all (· ≠ []) then some pieces.flatten else none

/-- Reads a floating point number from a text: as it stands between blanks, or else without its
underscores but with the blanks. -/
def numberOfText? (s : List Char) : Option Binary64 :=
  match readPlainFloat? (trimBy isNumeralBlank s) with
  | some x => some x
  | none => (dropUnderscores? s).bind readPlainFloat?

/-- Reads a floating point number: also an integer of its range, a boolean, or a text. -/
def number : Reader Binary64
  | .float x => .valid x
  | .int i =>
    match Binary64.ofInt i with
    | .infinite _ => .fail .notNumber
    | x => .valid x
  | .bool b => .valid (Binary64.ofInt (if b then 1 else 0))
  | .string s =>
    match numberOfText? s.toList with
    | some x => .valid x
    | none => .fail .unreadableNumber
  | _ => .fail .notNumber

end AlertRelay.Schema

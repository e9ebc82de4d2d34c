import AlertRelay.Text.Surrogate

/-!
# Octets of a text

Texts travel as UTF-8. Decoding never fails: each maximal malformed piece, the longest start of
a well-formed sequence or else a single octet, becomes one replacement character.

## Main definitions

* `encode`: the octets of a text.
* `decode`: the text of any octets, with replacement.
* `decode?`: the text of octets that are well formed throughout.
-/

namespace AlertRelay.Text

/-- An octet string. -/
abbrev Octets := List UInt8

/-- The UTF-8 octets of a text. -/
def encode (s : String) : Octets := s.toList.flatMap String.utf8EncodeChar

/-- A sequence that has begun: `value` holds the bits so far, `more + 1` octets are missing, and
the next of them lies between `low` and `high`. -/
structure Pending where
  value : Nat
  more : Nat
  low : Nat := 0x80
  high : Nat := 0xbf
  deriving DecidableEq, Repr

/-- What an octet means where no sequence is under way. The second octet is restricted after
those lead octets that could otherwise begin an overlong form, a surrogate or a number beyond
the last code point. -/
def openSequence (b : Nat) : List Char × Option Pending :=
  if b < 0x80 then ([Char.ofNat b], none)
  else if b < 0xc2 then ([replacementChar], none)
  else if b < 0xe0 then ([], some { value := b - 0xc0, more := 0 })
  else if b = 0xe0 then ([], some { value := 0, more := 1, low := 0xa0 })
  else if b = 0xed then ([], some { value := 0xd, more := 1, high := 0x9f })
  else if b < 0xf0 then ([], some { value := b - 0xe0, more := 1 })
  else if b = 0xf0 then ([], some { value := 0, more := 2, low := 0x90 })
  else if b < 0xf4 then ([], some { value := b - 0xf0, more := 2 })
  else if b = 0xf4 then ([], some { value := 4, more := 2, high := 0x8f })
  else ([replacementChar], none)

/-- The characters that an octet completes, and the sequence that is under way after it. -/
def decodeStep (pending : Option Pending) (b : Nat) : List Char × Option Pending :=
  match pending with
  | none => openSequence b
  | some p =>
    if p.low ≤ b ∧ b ≤ p.high then
      let value := p.value * 64 + (b - 0x80)
      match p.more with
      | 0 => ([Char.ofNat value], none)
      | more + 1 => ([], some { value, more })
    else
      let (chars, next) := openSequence b
      (replacementChar :: chars, next)

/-- Decodes the octets that remain; `done` holds the reverse of the text so far. -/
def decodeFrom (done : List Char) (pending : Option Pending) : Octets → List Char
  | [] => (if pending.isSome then replacementChar :: done else done).reverse
  | b :: rest =>
    let (chars, next) := decodeStep pending b.toNat
    decodeFrom (chars.reverse ++ done) next rest

/-- The text of an octet string, one replacement character for each malformed piece. -/
def decode (raw : Octets) : String := String.ofList (decodeFrom [] none raw)

/-- The text of an octet string that is well formed throughout. -/
def decode? (raw : Octets) : Option String :=
  let text := decode raw
  if encode text = raw then some text else none

end AlertRelay.Text

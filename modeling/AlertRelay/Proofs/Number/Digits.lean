import AlertRelay.Number.Numeral
import AlertRelay.Proofs.Text.Blank

/-!
# Rows of Digits

A numeral begins with a sign or without, and goes on with a row of digits that ends where the
first other character stands.

## Main results

* `splitDigits_iff`: **a row of digits is split off** where it ends.
* `splitSign_append`, `splitSign_sound`: a sign is split off.
-/

namespace AlertRelay.Number

open AlertRelay.Text

/-- The digits of ASCII are ten code points in a row. -/
theorem range_of_isAsciiDigit {c : Char} (h : isAsciiDigit c = true) :
    0x30 ≤ c.toNat ∧ c.toNat < 0x30 + 10 := by
  rw [isAsciiDigit, asciiDigit?] at h
  split at h
  · next hc =>
      have hlow : '0'.toNat ≤ c.toNat := hc.1
      have hhigh : c.toNat ≤ '9'.toNat := hc.2
      exact ⟨hlow, Nat.lt_succ_of_le hhigh⟩
  · cases h

/-- A row of at least one ASCII digit. -/
def IsRow (s : List Char) : Prop := s ≠ [] ∧ IsOf isAsciiDigit s

/-- A sign, and whether it is a minus; none is like a plus. -/
inductive Sign : List Char → Bool → Prop
  | absent : Sign [] false
  | plus : Sign ['+'] false
  | minus : Sign ['-'] true

/-- **A row of digits ends where the first other character stands.** -/
theorem splitDigits_iff {s digits rest : List Char} :
    splitDigits s = (digits, rest) ↔
      s = digits ++ rest ∧ IsOf isAsciiDigit digits ∧ Stops isAsciiDigit rest := by
  constructor
  · intro h
    obtain ⟨rfl, rfl⟩ := Prod.mk.inj h
    exact ⟨List.takeWhile_append_dropWhile.symm, isOf_takeWhile isAsciiDigit s,
      stops_dropWhile isAsciiDigit s⟩
  · rintro ⟨rfl, hdigits, hrest⟩
    have hafter : (digits ++ rest).dropWhile isAsciiDigit = rest := dropWhile_append hdigits hrest
    have hwhole := List.takeWhile_append_dropWhile (p := isAsciiDigit) (l := digits ++ rest)
    rw [hafter] at hwhole
    rw [splitDigits, hafter, List.append_cancel_right hwhole]

/-- A sign is split off in front of what does not begin with one. -/
theorem splitSign_append {sign rest : List Char} {negative : Bool} (hsign : Sign sign negative)
    (hrest : ∀ c ∈ rest.head?, c ≠ '-' ∧ c ≠ '+') :
    splitSign (sign ++ rest) = (negative, rest) := by
  cases hsign with
  | plus => rfl
  | minus => rfl
  | absent =>
      rw [List.nil_append, splitSign.eq_def]
      split
      · exact absurd rfl (hrest '-' rfl).1
      · exact absurd rfl (hrest '+' rfl).2
      · rfl

/-- What is split off in front is a sign. -/
theorem splitSign_sound {s rest : List Char} {negative : Bool}
    (h : splitSign s = (negative, rest)) : ∃ sign, s = sign ++ rest ∧ Sign sign negative := by
  rw [splitSign.eq_def] at h
  split at h
  · cases h
    exact ⟨_, rfl, .minus⟩
  · cases h
    exact ⟨_, rfl, .plus⟩
  · cases h
    exact ⟨[], rfl, .absent⟩

/-- A row begins with no sign. -/
theorem IsRow.head {s rest : List Char} (h : IsRow s) :
    ∀ c ∈ (s ++ rest).head?, c ≠ '-' ∧ c ≠ '+' := by
  obtain ⟨hne, hdigits⟩ := h
  cases s with
  | nil => exact absurd rfl hne
  | cons d s =>
      intro c hc
      obtain rfl : d = c := Option.some.inj hc
      have hd := hdigits d List.mem_cons_self
      constructor <;>
        · rintro rfl
          exact absurd hd (by decide)

end AlertRelay.Number

import AlertRelay.Text.Case
import Mathlib.Data.Int.Notation
import Mathlib.Data.Nat.Notation

/-!
# Texts in Lower Case

A character is **small** when it is its own lower case, whatever stands beside it. Neighbours
matter to a capital sigma only, and no character has one as its lower case. So lower-casing
leaves small characters, and texts of small characters are those that it leaves as they are.

The table of lower cases is a list of runs. That it leads to small characters is a fact about
pairs of runs: the images of one miss the members of the other, because they all lie before them,
or all behind them, or fall between them. So the check goes over pairs of runs and never over code
points.

## Main results

* `CaseRun.image?_eq_none_of_misses`: the images of a run that misses another are not in that one.
* `isSmall_of_mem_lower`: a text in lower case has small characters only.
* `lower_eq_self_iff`: **the texts in lower case** are those of small characters.
-/

namespace AlertRelay.Text

/-! ### Runs -/

namespace CaseRun

/-- The image of the first code point. -/
def start (r : CaseRun) : ℕ := Int.toNat (r.first + r.shift)

/-- The image of the last code point. -/
def stop (r : CaseRun) : ℕ := Int.toNat (r.last + r.shift)

/-- Whether the images of a run miss another run: all lie before it, or all behind it, or all leave
a remainder that its members do not leave. -/
def misses (r other : CaseRun) : Bool :=
  Nat.blt r.stop other.first || Nat.blt other.last r.start ||
    (Nat.beq r.first r.last || Nat.beq (r.step % other.step) 0) &&
      !Nat.beq (r.start % other.step) (other.first % other.step)

/-- Two runs miss each other when they lie apart, or their steps never meet. -/
theorem misses_iff {r other : CaseRun} :
    r.misses other = true ↔
      (r.stop < other.first ∨ other.last < r.start) ∨
        (r.first = r.last ∨ r.step % other.step = 0) ∧
          r.start % other.step ≠ other.first % other.step := by
  simp only [misses, Bool.or_eq_true, Bool.and_eq_true, Bool.not_eq_true', ← Bool.not_eq_true,
    Nat.blt_eq, Nat.beq_eq, ne_eq]

/-- Which code point a run moves to which. -/
theorem image?_eq_some_iff {r : CaseRun} {n m : ℕ} :
    r.image? n = some m ↔
      (r.first ≤ n ∧ n ≤ r.last ∧ (n - r.first) % r.step = 0) ∧ Int.toNat (n + r.shift) = m := by
  rw [image?]
  split
  case isTrue h => simp [h]
  case isFalse h => simp [h]

/-- The images of a run that misses another are not in that one. -/
theorem image?_eq_none_of_misses {r other : CaseRun} (h : r.misses other = true)
    (hlow : 0 ≤ r.first + r.shift) {n m : ℕ} (hm : r.image? n = some m) :
    other.image? m = none := by
  obtain ⟨⟨hfirst, hlast, hstep⟩, himage⟩ := image?_eq_some_iff.mp hm
  have hstart : m = r.start + (n - r.first) := by rw [start]; omega
  have hstop : m ≤ r.stop := by rw [stop]; omega
  refine Option.eq_none_iff_forall_ne_some.mpr fun k hk => ?_
  obtain ⟨⟨hfirst', hlast', hstep'⟩, -⟩ := image?_eq_some_iff.mp hk
  obtain (hbefore | hbehind) | ⟨hsame, hremainder⟩ := misses_iff.mp h
  · omega
  · omega
  · have himages : other.step ∣ n - r.first := by
      obtain hone | hkeeps := hsame
      · rw [show n - r.first = 0 by omega]
        exact Nat.dvd_zero _
      · exact Nat.dvd_trans (Nat.dvd_of_mod_eq_zero hkeeps) (Nat.dvd_of_mod_eq_zero hstep)
    -- the images leave the remainder of the first image, the members that of the first member
    obtain ⟨k, hk⟩ := himages
    obtain ⟨k', hk'⟩ := Nat.dvd_of_mod_eq_zero hstep'
    refine hremainder ?_
    calc r.start % other.step
        = (r.start + other.step * k) % other.step := (Nat.add_mul_mod_self_left _ _ _).symm
      _ = (other.first + other.step * k') % other.step := by
          rw [← hk, ← hk', ← hstart, Nat.add_sub_cancel' hfirst']
      _ = other.first % other.step := Nat.add_mul_mod_self_left _ _ _

end CaseRun

/-- A code point is not moved exactly if no run has it. -/
theorem shiftBy_eq_none_iff {runs : List CaseRun} {n : ℕ} :
    shiftBy runs n = none ↔ ∀ r ∈ runs, r.image? n = none :=
  List.findSome?_eq_none_iff

/-- The code points whose lower case is another one: those of the table, and the one whose lower
case has two characters. -/
def movingRuns : List CaseRun := ⟨0x130, 0x130, 1, 0⟩ :: lowerRuns

/-- No run moves a code point below zero. -/
theorem lowerRuns_low : ∀ r ∈ lowerRuns, 0 ≤ r.first + r.shift := by
  decide +kernel

/-- What the runs move to is missed by all runs: it moves no further. -/
theorem lowerRuns_misses : (lowerRuns.all fun r => movingRuns.all r.misses) = true := by
  decide +kernel

/-- The table of lower cases leads out of itself. -/
theorem shiftBy_movingRuns_of_lowerRuns {n m : ℕ} (h : shiftBy lowerRuns n = some m) :
    shiftBy movingRuns m = none := by
  obtain ⟨r, hr, himage⟩ := List.exists_of_findSome?_eq_some h
  have hmisses := List.all_eq_true.mp (List.all_eq_true.mp lowerRuns_misses r hr)
  exact shiftBy_eq_none_iff.mpr fun other hother =>
    CaseRun.image?_eq_none_of_misses (hmisses other hother) (lowerRuns_low r hr) himage

/-! ### Small characters -/

/-- A character is **small** when it is its own lower case, whatever stands beside it. -/
def IsSmall (c : Char) : Prop := ∀ before after, lowerAt before c after = [c]

/-- The small characters are those that are their own lower case, except the one whose lower case
depends on what stands beside it. -/
theorem isSmall_iff {c : Char} : IsSmall c ↔ c ≠ 'Σ' ∧ lowerChar c = [c] := by
  constructor
  · intro h
    have hsigma : c ≠ 'Σ' := by
      rintro rfl
      exact absurd (h [] []) (by decide)
    have hlower := h [] []
    rw [lowerAt, if_neg hsigma] at hlower
    exact ⟨hsigma, hlower⟩
  · rintro ⟨hsigma, hlower⟩ before after
    rw [lowerAt, if_neg hsigma, hlower]

instance (c : Char) : Decidable (IsSmall c) := decidable_of_iff _ isSmall_iff.symm

/-- A character that does not move is small. -/
theorem isSmall_of_shiftBy {c : Char} (h : shiftBy movingRuns c.toNat = none) : IsSmall c := by
  rw [movingRuns, shiftBy_eq_none_iff, List.forall_mem_cons, ← shiftBy_eq_none_iff] at h
  obtain ⟨hdotted, htable⟩ := h
  have hne : c.toNat ≠ 0x130 := by
    intro heq
    rw [heq] at hdotted
    exact absurd hdotted (by decide)
  refine isSmall_iff.mpr ⟨?_, ?_⟩
  · rintro rfl
    exact absurd htable (by decide)
  · rw [lowerChar, if_neg hne, htable]

/-- A code point that no run moves is small. -/
theorem isSmall_ofNat {n : ℕ} (h : shiftBy movingRuns n = none) : IsSmall (Char.ofNat n) := by
  by_cases hvalid : n.isValidChar
  · have hvalue : (Char.ofNat n).toNat = n := by
      rw [Char.ofNat, dif_pos hvalid]
      rfl
    rw [← hvalue] at h
    exact isSmall_of_shiftBy h
  · rw [Char.ofNat, dif_neg hvalid]
    decide

/-- The lower case of a character consists of small ones. -/
theorem isSmall_of_mem_lowerAt {before after : List Char} {c d : Char}
    (h : d ∈ lowerAt before c after) : IsSmall d := by
  rw [lowerAt, lowerChar] at h
  split at h
  case isTrue =>
    split at h <;> obtain rfl := List.mem_singleton.mp h
    · decide
    · decide
  case isFalse hsigma =>
    split at h
    case isTrue =>
      rw [List.mem_cons, List.mem_singleton] at h
      obtain rfl | rfl := h
      · decide
      · decide
    case isFalse hdotted =>
      split at h <;> obtain rfl := List.mem_singleton.mp h
      case h_1 n hn => exact isSmall_ofNat (shiftBy_movingRuns_of_lowerRuns hn)
      case h_2 hn => exact isSmall_iff.mpr ⟨hsigma, by rw [lowerChar, if_neg hdotted, hn]⟩

/-! ### Texts -/

/-- What is finished stays in front. -/
theorem lowerFrom_eq (done before s : List Char) :
    lowerFrom done before s = done.reverse ++ lowerFrom [] before s := by
  induction s generalizing done before with
  | nil => simp [lowerFrom]
  | cons c after ih =>
      rw [lowerFrom, lowerFrom, ih, ih ((lowerAt before c after).reverse ++ [])]
      simp

/-- Lower-casing goes from character to character. -/
theorem lowerFrom_cons (before : List Char) (c : Char) (after : List Char) :
    lowerFrom [] before (c :: after) =
      lowerAt before c after ++ lowerFrom [] (c :: before) after := by
  rw [lowerFrom, lowerFrom_eq]
  simp

/-- The characters of a text in lower case are small. -/
theorem isSmall_of_mem_lowerFrom {before s : List Char} {d : Char}
    (h : d ∈ lowerFrom [] before s) : IsSmall d := by
  induction s generalizing before with
  | nil => exact absurd h List.not_mem_nil
  | cons c after ih =>
      rw [lowerFrom_cons] at h
      obtain hhere | hlater := List.mem_append.mp h
      · exact isSmall_of_mem_lowerAt hhere
      · exact ih hlater

/-- A text in lower case has small characters only. -/
theorem isSmall_of_mem_lower {s : String} {d : Char} (h : d ∈ (lower s).toList) : IsSmall d := by
  rw [lower, String.toList_ofList] at h
  exact isSmall_of_mem_lowerFrom h

/-- A text of small characters is its own lower case. -/
theorem lowerFrom_of_isSmall {before s : List Char} (h : ∀ c ∈ s, IsSmall c) :
    lowerFrom [] before s = s := by
  induction s generalizing before with
  | nil => rfl
  | cons c after ih =>
      obtain ⟨hc, hafter⟩ := List.forall_mem_cons.mp h
      rw [lowerFrom_cons, hc, ih hafter, List.singleton_append]

/-- **The texts in lower case** are those of small characters. -/
theorem lower_eq_self_iff {s : String} : lower s = s ↔ ∀ c ∈ s.toList, IsSmall c := by
  constructor
  · intro h c hc
    rw [← h] at hc
    exact isSmall_of_mem_lower hc
  · intro h
    rw [lower, lowerFrom_of_isSmall h, String.ofList_toList]

end AlertRelay.Text

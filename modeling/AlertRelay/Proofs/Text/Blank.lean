import AlertRelay.Text.Blank
import Mathlib.Data.List.TakeWhile

/-!
# Trimmed Texts

Characters of a class are skipped up to the first other one. A text is trimmed to what stands
between the characters of a class around it, and a text of blanks only is trimmed to nothing.

## Main results

* `Text.trimBy_iff`: **what a text is trimmed to**.
* `Text.strip_eq_empty_iff`: the blank texts.
-/

namespace AlertRelay.Text

/-- A text whose characters are all of a class. -/
def IsOf (p : Char → Bool) (s : List Char) : Prop := ∀ c ∈ s, p c = true

instance (p : Char → Bool) (s : List Char) : Decidable (IsOf p s) :=
  decidable_of_iff (s.all p = true) List.all_eq_true

/-- A text that does not begin with a character of a class. -/
def Stops (p : Char → Bool) (s : List Char) : Prop := ∀ c ∈ s.head?, p c = false

variable {p : Char → Bool}

/-- The empty text is of any class. -/
theorem isOf_nil : IsOf p [] := nofun

/-- Two texts of a class make a text of it. -/
theorem IsOf.append {s t : List Char} (hs : IsOf p s) (ht : IsOf p t) : IsOf p (s ++ t) := by
  intro c hc
  rcases List.mem_append.mp hc with hc | hc
  · exact hs c hc
  · exact ht c hc

/-- A text of a class is of it backwards. -/
theorem IsOf.reverse {s : List Char} (hs : IsOf p s) : IsOf p s.reverse :=
  fun c hc => hs c (List.mem_reverse.mp hc)

/-- A character of a class in front of a text of it. -/
theorem IsOf.cons {c : Char} {s : List Char} (hc : p c = true) (hs : IsOf p s) : IsOf p (c :: s) :=
  List.forall_mem_cons.mpr ⟨hc, hs⟩

/-! ### Skipping -/

/-- What is taken while it is of a class is of it. -/
theorem isOf_takeWhile (p : Char → Bool) (s : List Char) : IsOf p (s.takeWhile p) :=
  fun _ hc => List.mem_takeWhile_imp hc

/-- What is left behind it does not begin with a character of the class. -/
theorem stops_dropWhile (p : Char → Bool) (s : List Char) : Stops p (s.dropWhile p) := by
  intro c hc
  have hstop := List.head?_dropWhile_not p s
  rw [Option.mem_def.mp hc] at hstop
  simpa using hstop

/-- Nothing is dropped from a text that does not begin with a character of the class. -/
theorem Stops.dropWhile_eq {s : List Char} (h : Stops p s) : s.dropWhile p = s := by
  cases s with
  | nil => rfl
  | cons c s => rw [List.dropWhile_cons_of_neg (by rw [h c rfl]; exact Bool.false_ne_true)]

/-- What is skipped ends where a character of another class stands. -/
theorem dropWhile_append {before s : List Char} (hbefore : IsOf p before) (hs : Stops p s) :
    (before ++ s).dropWhile p = s := by
  rw [List.dropWhile_append_of_pos hbefore, hs.dropWhile_eq]

/-! ### Trimming -/

/-- **What a text is trimmed to** stands between characters of the class, and neither begins nor
ends with one. -/
theorem trimBy_iff {s core : List Char} :
    trimBy p s = core ↔
      ∃ before after, s = before ++ (core ++ after) ∧ IsOf p before ∧ IsOf p after ∧
        Stops p core ∧ Stops p core.reverse := by
  constructor
  · rintro rfl
    have hfront : s.takeWhile p ++ s.dropWhile p = s := List.takeWhile_append_dropWhile
    have hback : (s.dropWhile p).reverse.takeWhile p ++ (s.dropWhile p).reverse.dropWhile p =
        (s.dropWhile p).reverse := List.takeWhile_append_dropWhile
    have hsplit : trimBy p s ++ ((s.dropWhile p).reverse.takeWhile p).reverse = s.dropWhile p := by
      rw [trimBy, ← List.reverse_append, hback, List.reverse_reverse]
    refine ⟨_, _, (hsplit ▸ hfront).symm, isOf_takeWhile p s, (isOf_takeWhile p _).reverse, ?_, ?_⟩
    · intro c hc
      refine stops_dropWhile p s c ?_
      rw [← hsplit, List.head?_append, Option.mem_def.mp hc]
      rfl
    · rw [trimBy, List.reverse_reverse]
      exact stops_dropWhile p _
  · rintro ⟨before, after, rfl, hbefore, hafter, hfirst, hlast⟩
    cases core with
    | nil =>
        have hall : (before ++ after).dropWhile p = [] :=
          List.dropWhile_eq_nil_iff.mpr (hbefore.append hafter)
        rw [List.nil_append, trimBy, hall]
        rfl
    | cons c core =>
        have hstop : Stops p (c :: core ++ after) := hfirst
        rw [trimBy, dropWhile_append hbefore hstop, List.reverse_append,
          dropWhile_append hafter.reverse hlast, List.reverse_reverse]

/-- A text of blanks only is trimmed to nothing. -/
theorem strip_eq_empty_iff {text : String} : strip text = "" ↔ IsOf isBlank text.toList := by
  rw [strip, String.ofList_eq_empty_iff, trimBy_iff]
  constructor
  · rintro ⟨before, after, hs, hbefore, hafter, -, -⟩
    rw [hs]
    exact hbefore.append hafter
  · intro h
    exact ⟨text.toList, [], by simp, h, isOf_nil, nofun, nofun⟩

/-! ### Ink -/

/-- The characters that are no blanks. -/
def isInk (c : Char) : Bool := !isBlank c

/-- The visible ASCII characters are no blanks. -/
theorem isInk_of_range {c : Char} (h : 0x20 < c.toNat ∧ c.toNat < 0x80) : isInk c = true := by
  rw [isInk, Bool.not_eq_true', ← Bool.not_eq_true]
  intro hblank
  simp only [isBlank, inRanges, blankRanges, List.any_cons, List.any_nil, Bool.or_false,
    Bool.or_eq_true, Bool.and_eq_true, decide_eq_true_eq] at hblank
  omega

/-- A text with ink is not blank. -/
theorem not_isOf_isBlank {c : Char} {s : List Char} (hmem : c ∈ s) (hc : isInk c = true) :
    ¬IsOf isBlank s := by
  intro hblank
  rw [isInk, hblank c hmem] at hc
  cases hc

/-- Nothing is trimmed from ink. -/
theorem IsOf.stops_of_isInk {s : List Char} (h : IsOf isInk s) : Stops isNumeralBlank s := by
  intro c hc
  have hink := h c (List.mem_of_mem_head? hc)
  rw [isInk, Bool.not_eq_true'] at hink
  rw [isNumeralBlank, hink, Bool.false_and]

end AlertRelay.Text

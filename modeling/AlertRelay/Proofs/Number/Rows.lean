import AlertRelay.Proofs.Number.Digits

/-!
# Rows of Digits with Underscores

The digits of a floating point number are those of any script, and single underscores may stand
between them. The reader makes the digits ASCII and leaves the underscores out before it looks at
anything else, with `bare?`. An underscore is between two digits and so within a row, which is why
the parts of a number can be found in the text as it was.

## Main results

* `Row`: a row of digits of any script, with underscores.
* `Row.bare`, `bare?_eq_row`: **a row is looked at as the digits that it stands for**, and nothing
  else is.
-/

namespace AlertRelay.Number

open AlertRelay.Text

/-- A digit of any script. -/
def isDigit (c : Char) : Bool := (decimalDigit? c).isSome

/-- A row of digits, any two of which an underscore may separate, with the row of ASCII digits that
it stands for. -/
inductive Row : List Char → List Char → Prop
  | one {c : Char} : isDigit c = true → Row [c] [plainDigit c]
  | next {c : Char} {s digits : List Char} : isDigit c = true → Row s digits →
      Row (c :: s) (plainDigit c :: digits)
  | apart {c : Char} {s digits : List Char} : isDigit c = true → Row s digits →
      Row (c :: '_' :: s) (plainDigit c :: digits)

/-! ### Digits of all scripts -/

/-- The value of a digit is below ten. -/
theorem decimalDigit?_lt {c : Char} {d : ℕ} (h : decimalDigit? c = some d) : d < 10 := by
  obtain ⟨first, -, hfirst⟩ := List.exists_of_findSome?_eq_some h
  split at hfirst
  · next hrange =>
      obtain rfl := Option.some.inj hfirst
      omega
  · cases hfirst

/-- The digits of ASCII are digits. -/
theorem isDigit_of_isAsciiDigit {c : Char} (h : isAsciiDigit c = true) : isDigit c = true := by
  rw [isDigit, decimalDigit?, digitZeros, List.findSome?_cons, if_pos (range_of_isAsciiDigit h)]
  rfl

/-- The digits of other scripts stand far behind the ASCII characters. -/
theorem range_of_isDigit {c : Char} (h : isDigit c = true) :
    0x30 ≤ c.toNat ∧ c.toNat < 0x3a ∨ 0x660 ≤ c.toNat := by
  obtain ⟨d, hd⟩ := Option.isSome_iff_exists.mp h
  obtain ⟨first, hmem, hfirst⟩ := List.exists_of_findSome?_eq_some hd
  have hzeros : ∀ z ∈ digitZeros, z = 0x30 ∨ 0x660 ≤ z := by decide
  split at hfirst
  · have hz := hzeros first hmem
    omega
  · cases hfirst

/-- A digit becomes an ASCII digit, and every other character stays and is none. -/
theorem plainDigit_cases (c : Char) :
    isDigit c = true ∧ isAsciiDigit (plainDigit c) = true ∨
      isDigit c = false ∧ plainDigit c = c ∧ isAsciiDigit c = false := by
  rw [plainDigit]
  cases hdigit : decimalDigit? c with
  | some d =>
      refine .inl ⟨by rw [isDigit, hdigit]; rfl, ?_⟩
      have hascii : ∀ d < 10, isAsciiDigit (Char.ofNat ('0'.toNat + d)) = true := by decide
      exact hascii d (decimalDigit?_lt hdigit)
  | none =>
      have hnone : isDigit c = false := by rw [isDigit, hdigit]; rfl
      refine .inr ⟨hnone, rfl, ?_⟩
      rw [← Bool.not_eq_true]
      intro hascii
      rw [isDigit_of_isAsciiDigit hascii] at hnone
      cases hnone

/-- An underscore stays as it is. -/
theorem plainDigit_separator : plainDigit '_' = '_' := by decide

/-- No character but an underscore becomes one. -/
theorem plainDigit_eq_separator {c : Char} (h : plainDigit c = '_') : c = '_' := by
  obtain ⟨-, hascii⟩ | ⟨-, hsame, -⟩ := plainDigit_cases c
  · rw [h] at hascii
    exact absurd hascii (by decide)
  · rwa [hsame] at h

/-- What becomes a digit of ASCII was a digit. -/
theorem isAsciiDigit_plainDigit (c : Char) : isAsciiDigit (plainDigit c) = isDigit c := by
  obtain ⟨hdigit, hascii⟩ | ⟨hdigit, hsame, hascii⟩ := plainDigit_cases c
  · rw [hdigit, hascii]
  · rw [hdigit, hsame, hascii]

/-- A character that is no digit stays as it is. -/
theorem plainDigit_of_not_digit {a c : Char} (h : plainDigit a = c)
    (hc : isAsciiDigit c = false) : a = c := by
  obtain ⟨-, hascii⟩ | ⟨-, hsame, -⟩ := plainDigit_cases a
  · rw [h, hc] at hascii
    cases hascii
  · rwa [hsame] at h

/-- Digits are no blanks. -/
theorem isInk_of_isDigit {c : Char} (h : isDigit c = true) : isInk c = true := by
  obtain ⟨d, hd⟩ := Option.isSome_iff_exists.mp h
  obtain ⟨first, hmem, hfirst⟩ := List.exists_of_findSome?_eq_some hd
  have hapart : ∀ z ∈ digitZeros, ∀ r ∈ blankRanges, r.2 < z ∨ z + 10 ≤ r.1 := by decide
  rw [isInk, Bool.not_eq_true', ← Bool.not_eq_true]
  intro hblank
  obtain ⟨r, hr, hrange⟩ := List.any_eq_true.mp hblank
  rw [Bool.and_eq_true, decide_eq_true_eq, decide_eq_true_eq] at hrange
  split at hfirst
  · have hz := hapart first hmem r hr
    omega
  · cases hfirst

/-! ### Texts without underscores -/

/-- A text as the reader looks at it, its digits ASCII and its underscores left out. -/
def bare? (afterDigit : Bool) (s : List Char) : Option (List Char) :=
  dropSeparators? afterDigit (s.map plainDigit)

/-- The empty text is looked at as it is. -/
theorem bare?_nil (afterDigit : Bool) : bare? afterDigit [] = some [] := rfl

/-- A character that is no underscore is looked at, as a digit of ASCII if it is one. -/
theorem bare?_cons {c : Char} (hc : c ≠ '_') (afterDigit : Bool) (s : List Char) :
    bare? afterDigit (c :: s) = (bare? (isDigit c) s).map (plainDigit c :: ·) := by
  have hplain : plainDigit c ≠ '_' := mt plainDigit_eq_separator hc
  rw [bare?, List.map_cons, dropSeparators?.eq_3 _ _ _ fun _ _ h => absurd h hplain, if_neg hplain,
    isAsciiDigit_plainDigit]
  rfl

/-- Digits are no underscores. -/
theorem not_separator {c : Char} (hc : isDigit c = true) : c ≠ '_' := by
  rintro rfl
  exact absurd hc (by decide)

/-- Between two digits an underscore is left out. -/
theorem bare?_separator {c : Char} (hc : isDigit c = true) (s : List Char) :
    bare? true ('_' :: c :: s) = bare? true (c :: s) := by
  rw [bare?_cons (not_separator hc), bare?, List.map_cons, List.map_cons, plainDigit_separator,
    dropSeparators?, isAsciiDigit_plainDigit, hc]
  rfl

/-- Only the empty text is looked at as empty. -/
theorem bare?_eq_nil {afterDigit : Bool} {s : List Char} (h : bare? afterDigit s = some []) :
    s = [] := by
  cases s with
  | nil => rfl
  | cons c s =>
      by_cases hc : c = '_'
      · rw [hc] at h
        cases s <;> simp [bare?, plainDigit_separator, dropSeparators?] at h
      · rw [bare?_cons hc] at h
        obtain ⟨rest, -, heq⟩ := Option.map_eq_some_iff.mp h
        cases heq

/-- How a text begins that the reader looks at as one with a first character. -/
theorem bare?_eq_cons {afterDigit : Bool} {s t : List Char} {c : Char}
    (h : bare? afterDigit s = some (c :: t)) :
    ∃ a rest, a ≠ '_' ∧ plainDigit a = c ∧ bare? (isDigit a) rest = some t ∧
      (s = a :: rest ∨ afterDigit = true ∧ isDigit a = true ∧ s = '_' :: a :: rest) := by
  cases s with
  | nil => cases h
  | cons a s =>
      by_cases ha : a = '_'
      · subst ha
        cases s with
        | nil => simp [bare?, plainDigit_separator, dropSeparators?] at h
        | cons b s =>
            rw [bare?, List.map_cons, List.map_cons, plainDigit_separator, dropSeparators?] at h
            split at h
            · next hdigit =>
                rw [Bool.and_eq_true, isAsciiDigit_plainDigit] at hdigit
                obtain ⟨rest, hrest, heq⟩ := Option.map_eq_some_iff.mp h
                obtain ⟨rfl, rfl⟩ := List.cons.inj heq
                refine ⟨b, s, not_separator hdigit.2, rfl, ?_, .inr ⟨hdigit.1, hdigit.2, rfl⟩⟩
                rw [hdigit.2]
                exact hrest
            · cases h
      · rw [bare?_cons ha] at h
        obtain ⟨rest, hrest, heq⟩ := Option.map_eq_some_iff.mp h
        obtain ⟨rfl, rfl⟩ := List.cons.inj heq
        exact ⟨a, s, ha, rfl, hrest, .inl rfl⟩

/-- A character that is no digit and no underscore is looked at as it is. -/
theorem bare?_other {c : Char} (hdigit : isDigit c = false) (hc : c ≠ '_') (afterDigit : Bool)
    (s : List Char) : bare? afterDigit (c :: s) = (bare? false s).map (c :: ·) := by
  obtain ⟨htrue, -⟩ | ⟨-, hsame, -⟩ := plainDigit_cases c
  · rw [hdigit] at htrue
    cases htrue
  · rw [bare?_cons hc, hdigit, hsame]

/-- What the reader looks at as no digit is there as it is. -/
theorem bare?_eq_other {afterDigit : Bool} {s t : List Char} {c : Char}
    (hc : isAsciiDigit c = false) (h : bare? afterDigit s = some (c :: t)) :
    ∃ rest, s = c :: rest ∧ bare? false rest = some t := by
  obtain ⟨a, rest, -, ha, hrest, hs⟩ := bare?_eq_cons h
  have hdigit : isDigit a = false := by rw [← isAsciiDigit_plainDigit, ha, hc]
  obtain rfl := plainDigit_of_not_digit ha hc
  rw [hdigit] at hrest
  obtain hs | ⟨-, hother, -⟩ := hs
  · exact ⟨rest, hs, hrest⟩
  · rw [hdigit] at hother
    cases hother

/-! ### Signs -/

/-- A sign is no blank. -/
theorem Sign.ink {s : List Char} {negative : Bool} (h : Sign s negative) : IsOf isInk s := by
  cases h with
  | absent => exact isOf_nil
  | plus | minus => exact .cons (by decide) isOf_nil

/-- The reader looks at a sign as it is. -/
theorem Sign.bare {sign : List Char} {negative : Bool} (h : Sign sign negative) (s : List Char) :
    bare? false (sign ++ s) = (bare? false s).map (sign ++ ·) := by
  cases h with
  | absent => simp
  | plus => exact bare?_other (by decide) (by decide) false s
  | minus => exact bare?_other (by decide) (by decide) false s

/-- What the reader looks at as a sign is there as it is. -/
theorem bare?_eq_sign {sign s t : List Char} {negative : Bool} (hsign : Sign sign negative)
    (h : bare? false s = some (sign ++ t)) :
    ∃ rest, s = sign ++ rest ∧ bare? false rest = some t := by
  cases hsign with
  | absent => exact ⟨s, rfl, h⟩
  | plus => exact bare?_eq_other (by decide) h
  | minus => exact bare?_eq_other (by decide) h

/-! ### Rows -/

/-- The digits of a row, in ASCII, are a row. -/
theorem Row.isRow {s digits : List Char} (h : Row s digits) : IsRow digits := by
  have hascii {c : Char} (hc : isDigit c = true) : isAsciiDigit (plainDigit c) = true := by
    rw [isAsciiDigit_plainDigit, hc]
  induction h with
  | one hc => exact ⟨nofun, List.forall_mem_singleton.mpr (hascii hc)⟩
  | next hc _ ih => exact ⟨nofun, List.forall_mem_cons.mpr ⟨hascii hc, ih.2⟩⟩
  | apart hc _ ih => exact ⟨nofun, List.forall_mem_cons.mpr ⟨hascii hc, ih.2⟩⟩

/-- A row begins with a digit. -/
theorem Row.head {s digits : List Char} (h : Row s digits) :
    ∃ c rest, s = c :: rest ∧ isDigit c = true := by
  cases h with
  | one hc | next hc | apart hc => exact ⟨_, _, rfl, hc⟩

/-- A row has no blanks. -/
theorem Row.ink {s digits : List Char} (h : Row s digits) : IsOf isInk s := by
  induction h with
  | one hc => exact .cons (isInk_of_isDigit hc) isOf_nil
  | next hc _ ih => exact .cons (isInk_of_isDigit hc) ih
  | apart hc _ ih => exact .cons (isInk_of_isDigit hc) (.cons (by decide) ih)

/-- The reader looks at a row as at the digits that it stands for. -/
theorem Row.bare {s digits : List Char} (h : Row s digits) (afterDigit : Bool) (rest : List Char) :
    bare? afterDigit (s ++ rest) = (bare? true rest).map (digits ++ ·) := by
  induction h generalizing afterDigit with
  | one hc =>
      rw [List.singleton_append, bare?_cons (not_separator hc), hc]
      rfl
  | next hc _ ih =>
      rw [List.cons_append, bare?_cons (not_separator hc), ih, Option.map_map]
      rfl
  | @apart c s digits hc hrow ih =>
      obtain ⟨d, behind, rfl, hd⟩ := hrow.head
      rw [List.cons_append, List.cons_append, bare?_cons (not_separator hc), hc, List.cons_append,
        bare?_separator hd, ← List.cons_append, ih, Option.map_map]
      rfl

/-- It makes no difference to what is no digit that a digit stands before it. -/
theorem bare?_false {s t : List Char} (ht : Stops isAsciiDigit t) (h : bare? true s = some t) :
    bare? false s = some t := by
  cases s with
  | nil => exact h
  | cons c s =>
      by_cases hc : c = '_'
      · cases t with
        | nil =>
            cases bare?_eq_nil h
        | cons d t =>
            obtain ⟨a, rest, ha, rfl, -, hs | ⟨-, hdigit, -⟩⟩ := bare?_eq_cons h
            · exact absurd ((List.cons.inj hs).1.symm.trans hc) ha
            · have hother := ht _ rfl
              rw [isAsciiDigit_plainDigit, hdigit] at hother
              cases hother
      · rwa [bare?_cons hc] at h ⊢

/-- What the reader looks at as a row of digits is one. -/
theorem bare?_eq_row {s digits t : List Char} (hdigits : IsRow digits) (ht : Stops isAsciiDigit t)
    (h : bare? false s = some (digits ++ t)) :
    ∃ front rest, s = front ++ rest ∧ Row front digits ∧ bare? false rest = some t := by
  obtain ⟨hne, hall⟩ := hdigits
  induction digits generalizing s with
  | nil => exact absurd rfl hne
  | cons d digits ih =>
      obtain ⟨hd, hmore⟩ := List.forall_mem_cons.mp hall
      obtain ⟨a, rest, -, rfl, hrest, rfl | ⟨⟨⟩, -⟩⟩ := bare?_eq_cons h
      rw [isAsciiDigit_plainDigit] at hd
      rw [hd] at hrest
      cases digits with
      | nil => exact ⟨[a], rest, rfl, .one hd, bare?_false ht hrest⟩
      | cons d' digits =>
          obtain ⟨b, behind, -, rfl, hbehind, hcases⟩ := bare?_eq_cons hrest
          have hb : isDigit b = true := by
            rw [← isAsciiDigit_plainDigit]
            exact hmore _ List.mem_cons_self
          have hnext : bare? false (b :: behind) = some (plainDigit b :: digits ++ t) := by
            rw [bare?_cons (not_separator hb), hbehind]
            rfl
          obtain ⟨front, after, hfront, hrow, hafter⟩ := ih hnext nofun hmore
          -- The next digit follows at once, or behind an underscore.
          obtain rfl | ⟨-, -, rfl⟩ := hcases
          · exact ⟨a :: front, after, by rw [hfront]; rfl, .next hd hrow, hafter⟩
          · exact ⟨a :: '_' :: front, after, by rw [hfront]; rfl, .apart hd hrow, hafter⟩

end AlertRelay.Number

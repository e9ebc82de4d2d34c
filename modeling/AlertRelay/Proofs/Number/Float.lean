import AlertRelay.Proofs.Number.Rows

/-!
# The Spelling of Floating Point Numbers

A floating point number is spelled by a sign or none, and a decimal or a word: infinity, in full
or short, or not-a-number. A decimal is a row of digits with a point in it, before it, behind it,
or without, and a power of ten may follow. There may be blanks around the whole.

## Main results

* `SpellsFloat`: **the grammar** of floating point numbers.
* `readFloat_iff`: **the reader accepts the grammar**.
-/

namespace AlertRelay.Number

open AlertRelay.Text

/-! ### The grammar -/

/-- A decimal without a power, with the digits before its point and behind it. -/
inductive Decimal : List Char → List Char → List Char → Prop
  | whole {s whole : List Char} : Row s whole → Decimal s whole []
  | point {s whole : List Char} : Row s whole → Decimal (s ++ ['.']) whole []
  | fraction {t fraction : List Char} : Row t fraction → Decimal ('.' :: t) [] fraction
  | both {s t whole fraction : List Char} : Row s whole → Row t fraction →
      Decimal (s ++ '.' :: t) whole fraction

/-- A power of ten; none counts as the power zero. -/
inductive Exponent : List Char → ℤ → Prop
  | absent : Exponent [] 0
  | row {e : Char} {sign s digits : List Char} {negative : Bool} : e = 'e' ∨ e = 'E' →
      Sign sign negative → Row s digits →
      Exponent (e :: (sign ++ s)) (if negative then -(digitsValue digits) else digitsValue digits)

/-- A number behind its sign. Words may be in capitals. -/
inductive Magnitude (negative : Bool) : List Char → Binary64 → Prop
  | infinity {s : List Char} :
      s.map asciiLowerChar = ['i', 'n', 'f'] ∨
        s.map asciiLowerChar = ['i', 'n', 'f', 'i', 'n', 'i', 't', 'y'] →
      Magnitude negative s (.infinite negative)
  | nan {s : List Char} : s.map asciiLowerChar = ['n', 'a', 'n'] → Magnitude negative s .nan
  | decimal {s t whole fraction : List Char} {exponent : ℤ} :
      Decimal s whole fraction → Exponent t exponent →
      Magnitude negative (s ++ t)
        (.ofDecimal negative (digitsValue (whole ++ fraction)) (exponent - fraction.length))

/-- **The grammar of floating point numbers.** -/
inductive SpellsFloat : List Char → Binary64 → Prop
  | signed {before sign s after : List Char} {negative : Bool} {value : Binary64} :
      IsOf isNumeralBlank before → Sign sign negative → Magnitude negative s value →
      IsOf isNumeralBlank after → SpellsFloat (before ++ (sign ++ s ++ after)) value

/-! ### Words -/

/-- Only a capital has another character as its lower case. -/
theorem asciiLowerChar_cases (c : Char) :
    asciiLowerChar c = c ∨ 65 ≤ c.toNat ∧ c.toNat ≤ 90 := by
  rw [asciiLowerChar]
  split
  · next hc =>
      have hlow : 'A'.toNat ≤ c.toNat := hc.1
      have hhigh : c.toNat ≤ 'Z'.toNat := hc.2
      exact .inr ⟨hlow, hhigh⟩
  · exact .inl rfl

/-- The letters, capital or not. -/
def isLetter (c : Char) : Bool :=
  decide (65 ≤ c.toNat ∧ c.toNat ≤ 90 ∨ 97 ≤ c.toNat ∧ c.toNat ≤ 122)

/-- Letters are no digits. -/
theorem not_digit_of_isLetter {c : Char} (h : isLetter c = true) : isDigit c = false := by
  rw [← Bool.not_eq_true]
  intro hdigit
  have hrange := range_of_isDigit hdigit
  rw [isLetter, decide_eq_true_eq] at h
  omega

/-- Letters are no digits of ASCII. -/
theorem not_asciiDigit_of_isLetter {c : Char} (h : isLetter c = true) : isAsciiDigit c = false := by
  rw [← Bool.not_eq_true]
  intro hdigit
  have hnot := not_digit_of_isLetter h
  rw [isDigit_of_isAsciiDigit hdigit] at hnot
  cases hnot

/-- A letter is not what is no letter. -/
theorem ne_of_isLetter {c d : Char} (h : isLetter c = true) (hd : isLetter d = false) : c ≠ d := by
  rintro rfl
  rw [h] at hd
  cases hd

/-- What spells a word of letters is in letters. -/
theorem letters_of_word {s word : List Char} (hword : IsOf isLetter word)
    (h : s.map asciiLowerChar = word) : IsOf isLetter s := by
  intro c hc
  have hlower := hword _ (h ▸ List.mem_map_of_mem (f := asciiLowerChar) hc)
  obtain hsame | hcapital := asciiLowerChar_cases c
  · rwa [hsame] at hlower
  · exact decide_eq_true (.inl hcapital)

/-- The words for an infinite number have letters only. -/
theorem letters_of_infinity {s : List Char}
    (h : s.map asciiLowerChar = ['i', 'n', 'f'] ∨
      s.map asciiLowerChar = ['i', 'n', 'f', 'i', 'n', 'i', 't', 'y']) : IsOf isLetter s := by
  rcases h with h | h
  · exact letters_of_word (by decide) h
  · exact letters_of_word (by decide) h

/-- So has the word for no number. -/
theorem letters_of_nan {s : List Char} (h : s.map asciiLowerChar = ['n', 'a', 'n']) :
    IsOf isLetter s := letters_of_word (by decide) h

/-- A text of letters is looked at as it is. -/
theorem bare?_eq_word {s t : List Char} (ht : IsOf isLetter t) (h : bare? false s = some t) :
    s = t := by
  induction t generalizing s with
  | nil => exact bare?_eq_nil h
  | cons c t ih =>
      obtain ⟨hc, ht⟩ := List.forall_mem_cons.mp ht
      obtain ⟨rest, rfl, hrest⟩ := bare?_eq_other (not_asciiDigit_of_isLetter hc) h
      rw [ih ht hrest]

/-- The reader looks at a word as it is. -/
theorem bare?_word {s : List Char} (h : IsOf isLetter s) : bare? false s = some s := by
  induction s with
  | nil => rfl
  | cons c s ih =>
      obtain ⟨hc, hs⟩ := List.forall_mem_cons.mp h
      rw [bare?_other (not_digit_of_isLetter hc) (ne_of_isLetter hc (by decide)), ih hs]
      rfl

/-- Letters begin with no sign. -/
theorem head_of_letters {s : List Char} (h : IsOf isLetter s) :
    ∀ c ∈ s.head?, c ≠ '-' ∧ c ≠ '+' := by
  intro c hc
  have hletter := h c (List.mem_of_mem_head? hc)
  exact ⟨ne_of_isLetter hletter (by decide), ne_of_isLetter hletter (by decide)⟩

/-- Letters are no blanks. -/
theorem ink_of_letters {s : List Char} (h : IsOf isLetter s) : IsOf isInk s := by
  intro c hc
  have hletter := h c hc
  rw [isLetter, decide_eq_true_eq] at hletter
  exact isInk_of_range (by omega)

/-! ### Soundness -/

/-- What is read as an exponent is one. -/
theorem exponent_sound {s t : List Char} {exponent : ℤ} (hs : bare? false s = some t)
    (h : readExponent? t = some exponent) : Exponent s exponent := by
  cases t with
  | nil =>
      cases h
      rw [bare?_eq_nil hs]
      exact .absent
  | cons e t =>
      rw [readExponent?] at h
      split at h
      · next he =>
          have hother : isAsciiDigit e = false := by
            rcases he with rfl | rfl <;> decide
          obtain ⟨behind, rfl, hbehind⟩ := bare?_eq_other hother hs
          rcases hsign : splitSign t with ⟨negative, body⟩
          rcases hrow : splitDigits body with ⟨digits, after⟩
          simp only [hsign, hrow] at h
          obtain ⟨sign, rfl, isSign⟩ := splitSign_sound hsign
          obtain ⟨rfl, hdigits, hafter⟩ := splitDigits_iff.mp hrow
          split at h
          · cases h
          · next hparts =>
              cases h
              obtain ⟨hne, rfl⟩ : digits ≠ [] ∧ after = [] := by
                simpa [not_or] using hparts
              obtain ⟨row, rfl, hbare⟩ := bare?_eq_sign isSign hbehind
              obtain ⟨front, rest, rfl, isRow, hrest⟩ := bare?_eq_row ⟨hne, hdigits⟩ hafter hbare
              rw [bare?_eq_nil hrest, List.append_nil]
              exact .row he isSign isRow
      · cases h

/-- The digits around a point, and where they stand in the text. -/
theorem decimal_sound {s body whole after fraction t : List Char} (hs : bare? false s = some body)
    (hwhole : splitDigits body = (whole, after)) (hfraction : splitFraction after = (fraction, t))
    (hsome : ¬(whole = [] ∧ fraction = [])) :
    ∃ front rest, s = front ++ rest ∧ Decimal front whole fraction ∧ bare? false rest = some t := by
  obtain ⟨rfl, hdigits, hafter⟩ := splitDigits_iff.mp hwhole
  -- The text behind the whole part, which is a row unless it is empty.
  have hfirst : ∃ front rest, s = front ++ rest ∧ (whole = [] ∧ front = [] ∨ Row front whole) ∧
      bare? false rest = some after := by
    by_cases hempty : whole = []
    · rw [hempty, List.nil_append] at hs
      exact ⟨[], s, rfl, .inl ⟨hempty, rfl⟩, hs⟩
    · obtain ⟨front, rest, rfl, hrow, hrest⟩ := bare?_eq_row ⟨hempty, hdigits⟩ hafter hs
      exact ⟨front, rest, rfl, .inr hrow, hrest⟩
  obtain ⟨front, rest, rfl, hfront, hrest⟩ := hfirst
  rw [splitFraction.eq_def] at hfraction
  split at hfraction
  · next behind =>
      obtain ⟨rfl, hdigits', ht⟩ := splitDigits_iff.mp hfraction
      obtain ⟨last, rfl, hlast⟩ := bare?_eq_other (by decide) hrest
      by_cases hempty : fraction = []
      · subst hempty
        obtain ⟨rfl, rfl⟩ | hrow := hfront
        · exact absurd ⟨rfl, rfl⟩ hsome
        · exact ⟨front ++ ['.'], last, by simp, .point hrow, hlast⟩
      · obtain ⟨back, rest, rfl, hback, hend⟩ := bare?_eq_row ⟨hempty, hdigits'⟩ ht hlast
        obtain ⟨rfl, rfl⟩ | hrow := hfront
        · exact ⟨'.' :: back, rest, rfl, .fraction hback, hend⟩
        · exact ⟨front ++ '.' :: back, rest, by simp, .both hrow hback, hend⟩
  · cases hfraction
    obtain ⟨rfl, rfl⟩ | hrow := hfront
    · exact absurd ⟨rfl, rfl⟩ hsome
    · exact ⟨front, rest, rfl, .whole hrow, hrest⟩

/-- The number that the text behind a sign spells. -/
def magnitude? (negative : Bool) (body : List Char) : Option Binary64 :=
  let word := String.ofList (body.map asciiLowerChar)
  if word = "inf" ∨ word = "infinity" then some (.infinite negative)
  else if word = "nan" then some .nan
  else readDecimal? negative body

/-- What a text without its sign is read as: a word for an infinite number, the one for no number,
or digits. -/
theorem magnitude?_eq (negative : Bool) (body : List Char) :
    magnitude? negative body =
      if body.map asciiLowerChar = ['i', 'n', 'f'] ∨
          body.map asciiLowerChar = ['i', 'n', 'f', 'i', 'n', 'i', 't', 'y'] then
        some (.infinite negative)
      else if body.map asciiLowerChar = ['n', 'a', 'n'] then some .nan
      else readDecimal? negative body := by
  have hword (text : String) (word : List Char) (htext : text = .ofList word) :
      String.ofList (body.map asciiLowerChar) = text ↔ body.map asciiLowerChar = word := by
    rw [htext, String.ofList_inj]
  have hinf := hword "inf" ['i', 'n', 'f'] rfl
  have hinfinity := hword "infinity" ['i', 'n', 'f', 'i', 'n', 'i', 't', 'y'] rfl
  have hnan := hword "nan" ['n', 'a', 'n'] rfl
  simp only [magnitude?, hinf, hinfinity, hnan]

/-- Reading a number drops underscores, splits the sign off, and reads what is left. -/
theorem readFloat?_eq (s : List Char) :
    readFloat? s = (dropSeparators? false s).bind fun plain =>
      magnitude? (splitSign plain).1 (splitSign plain).2 := rfl

/-- What is read as a magnitude is one. -/
theorem magnitude_sound {s body : List Char} {negative : Bool} {value : Binary64}
    (hs : bare? false s = some body) (h : magnitude? negative body = some value) :
    Magnitude negative s value := by
  rw [magnitude?_eq] at h
  split at h
  · next hword =>
      cases h
      rw [bare?_eq_word (letters_of_infinity hword) hs]
      exact .infinity hword
  · split at h
    · next hword =>
        cases h
        rw [bare?_eq_word (letters_of_nan hword) hs]
        exact .nan hword
    · rw [readDecimal?] at h
      rcases hwhole : splitDigits body with ⟨whole, after⟩
      rcases hfraction : splitFraction after with ⟨fraction, t⟩
      simp only [hwhole, hfraction] at h
      split at h
      · cases h
      · next hsome =>
          obtain ⟨exponent, hexponent, heq⟩ := Option.bind_eq_some_iff.mp h
          cases heq
          obtain ⟨front, rest, rfl, hdecimal, hrest⟩ := decimal_sound hs hwhole hfraction hsome
          exact .decimal hdecimal (exponent_sound hrest hexponent)

/-! ### Completeness -/

/-- How the reader looks at a power of ten. -/
theorem Exponent.bare {s : List Char} {exponent : ℤ} (h : Exponent s exponent) :
    ∃ t, (∀ afterDigit, bare? afterDigit s = some t) ∧
      (∀ c ∈ t.head?, isAsciiDigit c = false ∧ c ≠ '.') ∧ readExponent? t = some exponent := by
  cases h with
  | absent => exact ⟨[], fun _ => rfl, nofun, rfl⟩
  | @row e sign row digits negative he hsign hrow =>
      refine ⟨e :: (sign ++ digits), ?_, ?_, ?_⟩
      · intro afterDigit
        have hother : isDigit e = false ∧ e ≠ '_' := by
          rcases he with rfl | rfl <;> decide
        have hbare := hrow.bare false []
        rw [List.append_nil, bare?_nil] at hbare
        rw [bare?_other hother.1 hother.2, hsign.bare, hbare]
        simp
      · rintro _ ⟨⟩
        rcases he with rfl | rfl <;> decide
      · have hsplit : splitDigits digits = (digits, []) :=
          splitDigits_iff.mpr ⟨(List.append_nil _).symm, hrow.isRow.2, nofun⟩
        have hhead : ∀ c ∈ (digits ++ []).head?, c ≠ '-' ∧ c ≠ '+' := hrow.isRow.head
        rw [List.append_nil] at hhead
        rw [readExponent?, if_pos he, splitSign_append hsign hhead]
        simp only [hsplit, ne_eq, not_true_eq_false, or_false, if_neg hrow.isRow.1]

/-- How the reader looks at a decimal, and what it finds in it. -/
theorem Decimal.bare {s whole fraction rest t : List Char} (h : Decimal s whole fraction)
    (hrest : ∀ afterDigit, bare? afterDigit rest = some t)
    (ht : ∀ c ∈ t.head?, isAsciiDigit c = false ∧ c ≠ '.') :
    ∃ body after, bare? false (s ++ rest) = some body ∧ splitDigits body = (whole, after) ∧
      splitFraction after = (fraction, t) ∧ ¬(whole = [] ∧ fraction = []) := by
  have hstop : Stops isAsciiDigit t := fun c hc => (ht c hc).1
  have hbehind (row : List Char) (hrow : IsOf isAsciiDigit row) :
      splitFraction ('.' :: (row ++ t)) = (row, t) := splitDigits_iff.mpr ⟨rfl, hrow, hstop⟩
  have hpoint (tail : List Char) : Stops isAsciiDigit ('.' :: tail) := by
    rintro _ ⟨⟩
    decide
  have hdot (afterDigit : Bool) (tail : List Char) :
      bare? afterDigit ('.' :: tail) = (bare? false tail).map ('.' :: ·) :=
    bare?_other (by decide) (by decide) afterDigit tail
  cases h with
  | whole hrow =>
      have hnone : splitFraction t = ([], t) := by
        rw [splitFraction.eq_def]
        split
        · exact absurd rfl (ht '.' rfl).2
        · rfl
      refine ⟨whole ++ t, t, ?_, splitDigits_iff.mpr ⟨rfl, hrow.isRow.2, hstop⟩, hnone,
        fun h => hrow.isRow.1 h.1⟩
      rw [hrow.bare, hrest]
      rfl
  | point hrow =>
      refine ⟨whole ++ '.' :: t, '.' :: t, ?_,
        splitDigits_iff.mpr ⟨rfl, hrow.isRow.2, hpoint t⟩, hbehind [] isOf_nil,
        fun h => hrow.isRow.1 h.1⟩
      rw [List.append_assoc, hrow.bare, List.singleton_append, hdot, hrest]
      rfl
  | fraction hrow =>
      refine ⟨'.' :: (fraction ++ t), '.' :: (fraction ++ t), ?_,
        splitDigits_iff.mpr ⟨rfl, isOf_nil, hpoint _⟩, hbehind fraction hrow.isRow.2,
        fun h => hrow.isRow.1 h.2⟩
      rw [List.cons_append, hdot, hrow.bare, hrest]
      rfl
  | both hrow hback =>
      refine ⟨whole ++ '.' :: (fraction ++ t), '.' :: (fraction ++ t), ?_,
        splitDigits_iff.mpr ⟨rfl, hrow.isRow.2, hpoint _⟩, hbehind fraction hback.isRow.2,
        fun h => hrow.isRow.1 h.1⟩
      rw [List.append_assoc, hrow.bare, List.cons_append, hdot, hback.bare, hrest]
      rfl

/-- What the parts of a decimal are found in begins with a digit or a point. -/
theorem head_of_parts {body whole after fraction t : List Char}
    (hwhole : splitDigits body = (whole, after)) (hfraction : splitFraction after = (fraction, t))
    (hsome : ¬(whole = [] ∧ fraction = [])) :
    ∃ c rest, body = c :: rest ∧ (isAsciiDigit c = true ∨ c = '.') := by
  obtain ⟨rfl, hdigits, -⟩ := splitDigits_iff.mp hwhole
  cases whole with
  | cons d whole => exact ⟨d, whole ++ after, rfl, .inl (hdigits d List.mem_cons_self)⟩
  | nil =>
      rw [splitFraction.eq_def] at hfraction
      split at hfraction
      · exact ⟨'.', _, rfl, .inr rfl⟩
      · cases hfraction
        exact absurd ⟨rfl, rfl⟩ hsome

/-- A number behind its sign is read, and begins with no other sign. -/
theorem Magnitude.bare {s : List Char} {negative : Bool} {value : Binary64}
    (h : Magnitude negative s value) :
    ∃ body, bare? false s = some body ∧ (∀ c ∈ body.head?, c ≠ '-' ∧ c ≠ '+') ∧
      magnitude? negative body = some value := by
  cases h with
  | infinity hword =>
      have hletters := letters_of_infinity hword
      exact ⟨s, bare?_word hletters, head_of_letters hletters,
        by rw [magnitude?_eq, if_pos hword]⟩
  | nan hword =>
      have hletters := letters_of_nan hword
      refine ⟨s, bare?_word hletters, head_of_letters hletters, ?_⟩
      rw [magnitude?_eq, hword, if_neg (by decide), if_pos rfl]
  | @decimal s t whole fraction exponent hdecimal hexponent =>
      obtain ⟨tail, htail, hstop, hread⟩ := hexponent.bare
      obtain ⟨body, after, hbare, hwhole, hfraction, hsome⟩ := hdecimal.bare htail hstop
      obtain ⟨c, rest, rfl, hc⟩ := head_of_parts hwhole hfraction hsome
      refine ⟨c :: rest, hbare, ?_, ?_⟩
      · rintro _ ⟨⟩
        constructor <;>
          · rintro rfl
            exact absurd hc (by decide)
      · have hother : ¬IsOf isLetter (c :: rest) := by
          intro hletters
          have hletter := hletters c List.mem_cons_self
          rcases hc with hdigit | rfl
          · rw [not_asciiDigit_of_isLetter hletter] at hdigit
            cases hdigit
          · exact absurd hletter (by decide)
        rw [magnitude?_eq, if_neg (mt letters_of_infinity hother),
          if_neg (mt letters_of_nan hother), readDecimal?]
        simp only [hwhole, hfraction, if_neg hsome, hread]
        rfl

/-- A magnitude has characters. -/
theorem Magnitude.ne_nil {s : List Char} {negative : Bool} {value : Binary64}
    (h : Magnitude negative s value) : s ≠ [] := by
  rintro rfl
  obtain ⟨_, ⟨⟩, -, hvalue⟩ := h.bare
  rw [magnitude?_eq, if_neg (by decide), if_neg (by decide)] at hvalue
  cases hvalue

/-! ### Ink -/

/-- A magnitude has no blanks. -/
theorem Magnitude.ink {s : List Char} {negative : Bool} {value : Binary64}
    (h : Magnitude negative s value) : IsOf isInk s := by
  cases h with
  | infinity hword => exact ink_of_letters (letters_of_infinity hword)
  | nan hword => exact ink_of_letters (letters_of_nan hword)
  | decimal hdecimal hexponent =>
      refine .append ?_ ?_
      · cases hdecimal with
        | whole hrow => exact hrow.ink
        | point hrow => exact hrow.ink.append (.cons (by decide) isOf_nil)
        | fraction hrow => exact .cons (by decide) hrow.ink
        | both hrow hback => exact hrow.ink.append (.cons (by decide) hback.ink)
      · cases hexponent with
        | absent => exact isOf_nil
        | row he hsign hrow =>
            refine .cons ?_ (hsign.ink.append hrow.ink)
            rcases he with rfl | rfl <;> decide

/-! ### Whole texts -/

/-- **The reader accepts the grammar** of floating point numbers. -/
theorem readFloat_iff {text : String} {value : Binary64} :
    readFloat? (plainNumeral text) = some value ↔ SpellsFloat text.toList value := by
  rw [plainNumeral, readFloat?_eq]
  constructor
  · intro h
    obtain ⟨before, after, htext, hbefore, hafter, -, -⟩ :=
      trimBy_iff.mp (rfl : trimBy isNumeralBlank text.toList = _)
    obtain ⟨plain, hbare, hvalue⟩ := Option.bind_eq_some_iff.mp h
    obtain ⟨sign, hplain, hsign⟩ := splitSign_sound (rfl : splitSign plain = _)
    rw [hplain] at hbare
    obtain ⟨s, hs, hrest⟩ := bare?_eq_sign hsign hbare
    rw [htext, hs]
    exact .signed hbefore hsign (magnitude_sound hrest hvalue) hafter
  · intro h
    generalize text.toList = chars at h ⊢
    obtain @⟨before, sign, s, after, negative, _, hbefore, hsign, hmagnitude, hafter⟩ := h
    obtain ⟨body, hbare, hhead, hvalue⟩ := hmagnitude.bare
    have hink := hsign.ink.append hmagnitude.ink
    have hcore := trimBy_iff.mpr
      ⟨_, _, rfl, hbefore, hafter, hink.stops_of_isInk, hink.reverse.stops_of_isInk⟩
    have hwhole : dropSeparators? false ((sign ++ s).map plainDigit) = some (sign ++ body) := by
      rw [← bare?, hsign.bare, hbare]
      rfl
    rw [hcore, hwhole]
    simp only [Option.bind_some, splitSign_append hsign hhead]
    exact hvalue

end AlertRelay.Number

import AlertRelay.Proofs.Json.Grammar

/-!
# Reading Texts and Numbers

The readers of the tokens accept what the grammar describes, and nothing else.

## Main results

* `Json.readText_iff`: **a text is read up to its closing quote**.
* `Json.readWord_sound`, `Json.readWord_append`: **a word is read** where something follows that
  cannot go on with it.
-/

namespace AlertRelay.Json

open AlertRelay.Number AlertRelay.Text

/-! ### Texts -/

/-- The pieces that are read already but not settled. -/
def held (pending : Option ℕ) : List Piece := pending.toList.map .unit

/-- Only the first half of a pair is left pending. -/
def IsHeld (pending : Option ℕ) : Prop := ∀ high ∈ pending, isHighSurrogate high = true

/-- Nothing is held back where no unit is pending. -/
theorem isHeld_none : IsHeld none := nofun

/-- The first half of a pair, when it is alone, counts as the replacement character. -/
theorem unitChar_of_high {code : ℕ} (h : isHighSurrogate code = true) :
    unitChar code = replacementChar := by
  rw [unitChar, h, Bool.true_or, if_pos rfl]

/-- A unit that is no first half stands for a character of its own. -/
theorem joined_of_not_high {code : ℕ} (h : isHighSurrogate code = false) (pieces : List Piece) :
    joined (.unit code :: pieces) = unitChar code :: joined pieces := by
  cases pieces with
  | nil => rfl
  | cons piece pieces =>
      cases piece with
      | char c => rfl
      | unit low => rw [joined, h, Bool.false_and, if_neg Bool.false_ne_true]

/-- What is pending is settled in front of a character. -/
theorem joined_held_char {pending : Option ℕ} (hpending : IsHeld pending) (done : List Char)
    (c : Char) (pieces : List Piece) :
    (c :: settle pending done).reverse ++ joined (held none ++ pieces) =
      done.reverse ++ joined (held pending ++ .char c :: pieces) := by
  cases pending with
  | none => simp [settle, held, joined]
  | some high => simp [settle, held, joined, unitChar_of_high (hpending high rfl)]

/-- What is pending is settled at the end. -/
theorem joined_held_nil {pending : Option ℕ} (hpending : IsHeld pending) (done : List Char) :
    (settle pending done).reverse = done.reverse ++ joined (held pending ++ []) := by
  cases pending with
  | none => simp [settle, held, joined]
  | some high => simp [settle, held, joined, unitChar_of_high (hpending high rfl)]

/-- A unit completes what is pending, or is pending itself, or settles both. -/
theorem joined_held_unit {pending : Option ℕ} (hpending : IsHeld pending) (done : List Char)
    (code : ℕ) (pieces : List Piece) :
    IsHeld (addUnit pending done code).1 ∧
      (addUnit pending done code).2.reverse ++
          joined (held (addUnit pending done code).1 ++ pieces) =
        done.reverse ++ joined (held pending ++ .unit code :: pieces) := by
  cases hhigh : isHighSurrogate code with
  | true =>
      have hcode : IsHeld (some code) := by
        rintro _ ⟨⟩
        exact hhigh
      cases pending with
      | none =>
          rw [addUnit, hhigh]
          exact ⟨hcode, rfl⟩
      | some high =>
          have hfirst := hpending high rfl
          cases hlow : isLowSurrogate code with
          | true =>
              simp [addUnit, hlow, hfirst, held, joined, isHeld_none]
          | false =>
              simp [addUnit, hlow, hhigh, hcode, held, joined, settle, unitChar_of_high hfirst]
  | false =>
      have hplain := joined_of_not_high hhigh pieces
      cases pending with
      | none => simp [addUnit, hhigh, held, hplain, isHeld_none]
      | some high =>
          have hfirst := hpending high rfl
          cases hlow : isLowSurrogate code with
          | true => simp [addUnit, hlow, hfirst, held, joined, isHeld_none]
          | false =>
              simp [addUnit, hlow, hhigh, held, joined, settle, hplain, unitChar_of_high hfirst,
                isHeld_none]

/-- What is read as a text ends with a quote. -/
theorem readText_sound {opening s rest : List Char} {pending : Option ℕ} {done : List Char}
    {text : String} (hpending : IsHeld pending)
    (h : readText opening pending done s = .ok (text, rest)) :
    ∃ body pieces, s = body ++ '"' :: rest ∧ Spelling body pieces ∧
      text = .ofList (done.reverse ++ joined (held pending ++ pieces)) := by
  fun_induction readText opening pending done s with
  | case1 | case3 | case4 | case6 | case8 | case9 | case10 => cases h
  | case2 pending done rest =>
      cases h
      exact ⟨[], [], rfl, .nil, by rw [joined_held_nil hpending]⟩
  | case5 pending done a b c d after code hcode _ next ih =>
      have hnext := (joined_held_unit hpending done code []).1
      obtain ⟨body, pieces, rfl, hspelling, rfl⟩ := ih hnext h
      refine ⟨['\\', 'u', a, b, c, d] ++ body, .unit code :: pieces, rfl,
        .cons (.code hcode) hspelling, ?_⟩
      rw [(joined_held_unit hpending done code pieces).2]
  | case7 pending done letter after _ c hshort ih =>
      obtain ⟨body, pieces, rfl, hspelling, rfl⟩ := ih isHeld_none h
      exact ⟨['\\', letter] ++ body, .char c :: pieces, rfl, .cons (.short hshort) hspelling,
        congrArg String.ofList (joined_held_char hpending done c pieces)⟩
  | case11 pending done c after hquote hlast _ hescape hcontrol ih =>
      have hbackslash : c ≠ '\\' := by
        intro hc
        cases after with
        | nil => exact hlast hc rfl
        | cons letter after => exact hescape letter after hc rfl
      obtain ⟨body, pieces, rfl, hspelling, rfl⟩ := ih isHeld_none h
      exact ⟨[c] ++ body, .char c :: pieces, rfl,
        .cons (.plain hquote hbackslash (Nat.le_of_not_lt hcontrol)) hspelling,
        congrArg String.ofList (joined_held_char hpending done c pieces)⟩

section

variable (opening : List Char) (pending : Option ℕ) (done : List Char)

/-- A character that needs no escape is read as it is. -/
theorem readText_plain {c : Char} (hquote : c ≠ '"') (hbackslash : c ≠ '\\')
    (hcontrol : 0x20 ≤ c.toNat) (rest : List Char) :
    readText opening pending done (c :: rest) =
      readText opening none (c :: settle pending done) rest := by
  have hescape {P : Prop} (hc : c = '\\') : P := absurd hc hbackslash
  rw [readText.eq_6 _ _ _ _ _ hquote (fun h => hescape h) (fun _ _ _ _ _ h => hescape h)
    (fun _ _ h => hescape h), if_neg (Nat.not_lt.mpr hcontrol)]

/-- A short escape is read as its character. -/
theorem readText_short {letter c : Char} (h : shortEscape? letter = some c) (rest : List Char) :
    readText opening pending done ('\\' :: letter :: rest) =
      readText opening none (c :: settle pending done) rest := by
  have hletter : letter ≠ 'u' := by
    rintro rfl
    cases h
  rw [readText.eq_5 _ _ _ _ _ fun _ _ _ _ _ h => absurd h hletter, h]

/-- An escape by a code adds a unit. -/
theorem readText_code {a b c d : Char} {code : ℕ} (h : hexUnit? a b c d = some code)
    {rest : List Char} (hrest : rest ≠ []) :
    readText opening pending done ('\\' :: 'u' :: a :: b :: c :: d :: rest) =
      readText opening (addUnit pending done code).1 (addUnit pending done code).2 rest := by
  rw [readText, h]
  dsimp only
  rw [if_neg hrest]

end

/-- What is spelled up to a quote is read as a text. -/
theorem readText_append {body : List Char} {pieces : List Piece} (h : Spelling body pieces)
    {pending : Option ℕ} (hpending : IsHeld pending) (opening done rest : List Char) :
    readText opening pending done (body ++ '"' :: rest) =
      .ok (.ofList (done.reverse ++ joined (held pending ++ pieces)), rest) := by
  induction h generalizing pending done with
  | nil => rw [List.nil_append, readText, joined_held_nil hpending]
  | @cons front body piece pieces hpiece _ ih =>
      cases hpiece with
      | @plain c hquote hbackslash hcontrol =>
          rw [List.append_assoc, List.singleton_append,
            readText_plain opening pending done hquote hbackslash hcontrol, ih isHeld_none,
            joined_held_char hpending]
      | @short letter c hshort =>
          rw [List.append_assoc, List.cons_append, List.singleton_append,
            readText_short opening pending done hshort, ih isHeld_none, joined_held_char hpending]
      | @code a b c d code hcode =>
          obtain ⟨hnext, hjoined⟩ := joined_held_unit hpending done code pieces
          have hrest : body ++ '"' :: rest ≠ [] := List.append_ne_nil_of_right_ne_nil _ nofun
          rw [List.append_assoc, show ['\\', 'u', a, b, c, d] ++ (body ++ '"' :: rest) =
              '\\' :: 'u' :: a :: b :: c :: d :: (body ++ '"' :: rest) from rfl,
            readText_code opening pending done hcode hrest, ih hnext, hjoined]

/-- **A text is read up to its closing quote.** -/
theorem readText_iff {opening s rest : List Char} {text : String} :
    readText opening none [] s = .ok (text, rest) ↔
      ∃ body pieces, s = body ++ '"' :: rest ∧ Spelling body pieces ∧
        text = .ofList (joined pieces) := by
  constructor
  · intro h
    exact readText_sound isHeld_none h
  · rintro ⟨body, pieces, rfl, hspelling, rfl⟩
    exact readText_append hspelling isHeld_none opening [] rest

/-! ### Numbers -/

/-- What cannot go on with a number: its end, a blank, or what separates values. -/
def Ends (rest : List Char) : Prop :=
  ∀ c ∈ rest.head?, isSpace c = true ∨ c = ',' ∨ c = ']' ∨ c = '}'

/-- What ends a number cannot go on with it. -/
theorem Ends.head {rest : List Char} (h : Ends rest) :
    ∀ c ∈ rest.head?, isAsciiDigit c = false ∧ c ≠ '.' ∧ c ≠ 'e' ∧ c ≠ 'E' := by
  intro c hc
  have hcases : c = ' ' ∨ c = '\t' ∨ c = '\n' ∨ c = '\r' ∨ c = ',' ∨ c = ']' ∨ c = '}' := by
    simpa [isSpace, or_assoc] using h c hc
  rcases hcases with rfl | rfl | rfl | rfl | rfl | rfl | rfl <;> decide

/-- What is split off in front is the whole part of a number. -/
theorem splitWhole_sound {s whole rest : List Char} (h : splitWhole s = some (whole, rest)) :
    s = whole ++ rest ∧ IsWhole whole := by
  rw [splitWhole.eq_def] at h
  split at h
  · cases h
    exact ⟨rfl, .inl rfl⟩
  · next hzero =>
      split at h
      · cases h
      · next parts hparts =>
          have hsplit : splitDigits s = (whole, rest) := Option.some.inj h
          obtain ⟨hs, hdigits, -⟩ := splitDigits_iff.mp hsplit
          refine ⟨hs, .inr ⟨⟨?_, hdigits⟩, ?_⟩⟩
          · rintro rfl
            exact hparts rest hsplit
          · intro hhead
            obtain ⟨whole, rfl⟩ := List.head?_eq_some_iff.mp hhead
            exact hzero _ hs

/-- The whole part of a number is split off up to its last digit. -/
theorem splitWhole_append {whole rest : List Char} (h : IsWhole whole)
    (hrest : Stops isAsciiDigit rest) :
    splitWhole (whole ++ rest) = some (whole, rest) := by
  obtain rfl | ⟨⟨hne, hdigits⟩, hhead⟩ := h
  · rfl
  · cases whole with
    | nil => exact absurd rfl hne
    | cons d whole =>
        have hsplit := splitDigits_iff.mpr ⟨rfl, hdigits, hrest⟩
        rw [List.cons_append] at hsplit ⊢
        rw [splitWhole.eq_2 _ fun rest h => hhead (by rw [(List.cons.inj h).1]; rfl), hsplit]

/-- What is split off is a fraction with its digits. -/
theorem splitPoint_sound {s digits rest : List Char} (h : splitPoint s = (digits, rest)) :
    ∃ fraction, s = fraction ++ rest ∧ Fraction fraction digits := by
  rw [splitPoint.eq_def] at h
  split at h
  · next after =>
      split at h
      · cases h
        exact ⟨[], rfl, .absent⟩
      · next hparts =>
          obtain ⟨rfl, hdigits, -⟩ := splitDigits_iff.mp h
          refine ⟨'.' :: digits, rfl, .digits ⟨?_, hdigits⟩⟩
          rintro rfl
          exact hparts rest h
  · cases h
    exact ⟨[], rfl, .absent⟩

/-- A fraction is split off up to its last digit. -/
theorem splitPoint_append {fraction digits rest : List Char} (h : Fraction fraction digits)
    (hrest : ∀ c ∈ rest.head?, isAsciiDigit c = false ∧ c ≠ '.') :
    splitPoint (fraction ++ rest) = (digits, rest) := by
  cases h with
  | absent =>
      rw [List.nil_append, splitPoint.eq_def]
      split
      · exact absurd rfl (hrest '.' rfl).2
      · rfl
  | digits hrow =>
      obtain ⟨hne, hdigits⟩ := hrow
      have hsplit := splitDigits_iff.mpr ⟨rfl, hdigits, fun c hc => (hrest c hc).1⟩
      rw [List.cons_append, splitPoint, hsplit]
      split
      · next heq => exact absurd (Prod.mk.inj heq).1 hne
      · rfl

/-- What is split off is a power of ten with its exponent. -/
theorem splitPower_sound {s rest : List Char} {exponent : Option ℤ}
    (h : splitPower s = (exponent, rest)) : ∃ power, s = power ++ rest ∧ Power power exponent := by
  rw [splitPower.eq_def] at h
  split at h
  · next e after =>
      split at h
      · next he =>
          rcases hsign : splitSign after with ⟨negative, body⟩
          rw [hsign] at h
          dsimp only at h
          split at h
          · cases h
            exact ⟨[], rfl, .absent⟩
          · next row behind hparts hsplit =>
              obtain ⟨rfl, rfl⟩ := Prod.mk.inj h
              obtain ⟨sign, rfl, hspelled⟩ := splitSign_sound hsign
              obtain ⟨rfl, hdigits, -⟩ := splitDigits_iff.mp hsplit
              refine ⟨e :: (sign ++ row), by simp, .digits he hspelled ⟨?_, hdigits⟩⟩
              rintro rfl
              exact hparts rfl
      · cases h
        exact ⟨[], rfl, .absent⟩
  · cases h
    exact ⟨[], rfl, .absent⟩

/-- A power of ten is split off up to its last digit. -/
theorem splitPower_append {power rest : List Char} {exponent : Option ℤ} (h : Power power exponent)
    (hrest : ∀ c ∈ rest.head?, isAsciiDigit c = false ∧ c ≠ 'e' ∧ c ≠ 'E') :
    splitPower (power ++ rest) = (exponent, rest) := by
  cases h with
  | absent =>
      rw [List.nil_append, splitPower.eq_def]
      split
      · next e after =>
          rw [if_neg]
          obtain ⟨-, hsmall, hlarge⟩ := hrest e rfl
          rintro (rfl | rfl)
          · exact hsmall rfl
          · exact hlarge rfl
      · rfl
  | @digits e sign row negative he hsign hrow =>
      have hdigits := splitDigits_iff.mpr ⟨rfl, hrow.2, fun c hc => (hrest c hc).1⟩
      rw [List.cons_append, List.append_assoc, splitPower, if_pos he,
        splitSign_append hsign hrow.head]
      dsimp only
      rw [hdigits]
      split
      · next heq => exact absurd (Prod.mk.inj heq).1 hrow.1
      · next heq =>
          cases heq
          rfl

/-- A fraction has digits unless there is none. -/
theorem Fraction.eq_nil_iff {fraction digits : List Char} (h : Fraction fraction digits) :
    digits = [] ↔ fraction = [] := by
  cases h with
  | absent => exact Iff.rfl
  | digits hrow => exact iff_of_false hrow.1 nofun

/-- A power of ten has an exponent unless there is none. -/
theorem Power.eq_none_iff {power : List Char} {exponent : Option ℤ} (h : Power power exponent) :
    exponent = none ↔ power = [] := by
  cases h with
  | absent => exact iff_of_true rfl rfl
  | digits => exact iff_of_false nofun nofun

/-- What is read as a number is one. -/
theorem readNumber_sound {start s rest : List Char} {negative : Bool} {value : Json}
    (h : readNumber start negative s = .ok (value, rest)) :
    ∃ front, s = front ++ rest ∧ Numeral negative front value := by
  rw [readNumber] at h
  rcases hwhole : splitWhole s with _ | ⟨whole, afterWhole⟩
  · rw [hwhole] at h
    cases h
  · rcases hpoint : splitPoint afterWhole with ⟨digits, afterPoint⟩
    rcases hpower : splitPower afterPoint with ⟨exponent, behind⟩
    simp only [hwhole, hpoint, hpower] at h
    obtain ⟨rfl, isWhole⟩ := splitWhole_sound hwhole
    obtain ⟨fraction, rfl, isFraction⟩ := splitPoint_sound hpoint
    obtain ⟨power, rfl, isPower⟩ := splitPower_sound hpower
    have hempty : fraction ++ power = [] ↔ digits = [] ∧ exponent = none := by
      rw [List.append_eq_nil_iff, isFraction.eq_nil_iff, isPower.eq_none_iff]
    split at h
    · next hint =>
        obtain ⟨rfl, rfl⟩ := List.append_eq_nil_iff.mp (hempty.mpr hint)
        split at h
        · cases h
        · next hlimit =>
            cases h
            exact ⟨whole, rfl, .int isWhole (Nat.le_of_not_lt hlimit)⟩
    · next hfloat =>
        cases h
        exact ⟨whole ++ (fraction ++ power), by simp,
          .float isWhole isFraction isPower (mt hempty.mp hfloat)⟩

/-- Behind the parts of a number stands no digit and no point. -/
theorem Power.head {power rest : List Char} {exponent : Option ℤ} (h : Power power exponent)
    (hrest : Ends rest) : ∀ c ∈ (power ++ rest).head?, isAsciiDigit c = false ∧ c ≠ '.' := by
  intro c hc
  cases h with
  | absent => exact ⟨(hrest.head c hc).1, (hrest.head c hc).2.1⟩
  | @digits e _ _ _ he =>
      obtain rfl : e = c := Option.some.inj hc
      rcases he with rfl | rfl <;> decide

/-- Behind the whole part of a number no digit follows. -/
theorem Fraction.noDigit {fraction digits rest : List Char} (h : Fraction fraction digits)
    (hrest : Stops isAsciiDigit rest) : Stops isAsciiDigit (fraction ++ rest) := by
  cases h with
  | absent => exact hrest
  | digits =>
      rintro c ⟨⟩
      decide

/-- A number is read where something follows that cannot go on with it. -/
theorem readNumber_append {front rest : List Char} {negative : Bool} {value : Json}
    (h : Numeral negative front value) (hrest : Ends rest) (start : List Char) :
    readNumber start negative (front ++ rest) = .ok (value, rest) := by
  cases h with
  | int hwhole hlimit =>
      have hpoint := splitPoint_append .absent fun c hc =>
        ⟨(hrest.head c hc).1, (hrest.head c hc).2.1⟩
      have hpower := splitPower_append .absent fun c hc =>
        ⟨(hrest.head c hc).1, (hrest.head c hc).2.2⟩
      rw [List.nil_append] at hpoint hpower
      rw [readNumber, splitWhole_append hwhole fun c hc => (hrest.head c hc).1]
      simp only [hpoint, hpower, and_self, if_true, if_neg (Nat.not_lt.mpr hlimit)]
  | @float whole fraction digits power exponent hwhole hfraction hpower hne =>
      have hbehind := hpower.head hrest
      have hsome : ¬(digits = [] ∧ exponent = none) := by
        rwa [hfraction.eq_nil_iff, hpower.eq_none_iff, ← List.append_eq_nil_iff]
      rw [readNumber, List.append_assoc, List.append_assoc,
        splitWhole_append hwhole (hfraction.noDigit fun c hc => (hbehind c hc).1)]
      simp only [splitPoint_append hfraction hbehind, splitPower_append hpower fun c hc =>
        ⟨(hrest.head c hc).1, (hrest.head c hc).2.2⟩, if_neg hsome]

/-! ### Words -/

/-- The whole part of a number begins with a digit. -/
theorem IsWhole.head {whole : List Char} (h : IsWhole whole) (behind : List Char) :
    ∃ d rest, whole ++ behind = d :: rest ∧ isAsciiDigit d = true := by
  obtain rfl | ⟨⟨hne, hdigits⟩, -⟩ := h
  · exact ⟨'0', behind, rfl, by decide⟩
  · obtain ⟨d, rest, rfl⟩ := List.exists_cons_of_ne_nil hne
    exact ⟨d, rest ++ behind, rfl, hdigits d List.mem_cons_self⟩

/-- A number without its sign begins with a digit. -/
theorem Numeral.head {s : List Char} {negative : Bool} {value : Json}
    (h : Numeral negative s value) : ∃ d rest, s = d :: rest ∧ isAsciiDigit d = true := by
  cases h with
  | int h =>
      have hhead := h.head []
      rwa [List.append_nil] at hhead
  | float h => exact h.head _

/-- The characters that a word begins with. -/
def beginsWord (c : Char) : Bool :=
  c ∈ ['n', 't', 'f', 'N', 'I', '-'] || isAsciiDigit c

/-- A word begins with a letter, a digit or a minus. -/
theorem Word.head {s : List Char} {value : Json} (h : Word s value) :
    ∃ c rest, s = c :: rest ∧ beginsWord c = true := by
  cases h with
  | null | isTrue | isFalse | nan | infinity | minusInfinity => exact ⟨_, _, rfl, by decide⟩
  | number h =>
      obtain ⟨d, rest, rfl, hd⟩ := h.head
      exact ⟨d, rest, rfl, by rw [beginsWord, hd, Bool.or_true]⟩
  | minus => exact ⟨_, _, rfl, by decide⟩

/-- What is read as a word is one. -/
theorem readWord_sound {s rest : List Char} {value : Json} (h : readWord s = .ok (value, rest)) :
    ∃ front, s = front ++ rest ∧ Word front value := by
  rw [readWord.eq_def] at h
  split at h
  · cases h
    exact ⟨_, rfl, .null⟩
  · cases h
    exact ⟨_, rfl, .isTrue⟩
  · cases h
    exact ⟨_, rfl, .isFalse⟩
  · cases h
    exact ⟨_, rfl, .nan⟩
  · cases h
    exact ⟨_, rfl, .infinity⟩
  · cases h
    exact ⟨_, rfl, .minusInfinity⟩
  · obtain ⟨front, rfl, hnumber⟩ := readNumber_sound h
    exact ⟨'-' :: front, rfl, .minus hnumber⟩
  · obtain ⟨front, rfl, hnumber⟩ := readNumber_sound h
    exact ⟨front, rfl, .number hnumber⟩

/-- A word that begins with a digit is a number. -/
theorem readWord_of_digit {d : Char} (hd : isAsciiDigit d = true) (rest : List Char) :
    readWord (d :: rest) = readNumber (d :: rest) false (d :: rest) := by
  have hother {P : Prop} (c : Char) (hc : isAsciiDigit c = false) {s t : List Char}
      (h : d :: s = c :: t) : P := by
    rw [(List.cons.inj h).1, hc] at hd
    cases hd
  rw [readWord.eq_8 _ (fun _ => hother 'n' (by decide))
    (fun _ => hother 't' (by decide)) (fun _ => hother 'f' (by decide))
    (fun _ => hother 'N' (by decide)) (fun _ => hother 'I' (by decide))
    (fun _ => hother '-' (by decide)) (fun _ => hother '-' (by decide))]

/-- A minus in front of a digit is the sign of a number. -/
theorem readWord_minus_of_digit {d : Char} (hd : isAsciiDigit d = true) (rest : List Char) :
    readWord ('-' :: d :: rest) = readNumber ('-' :: d :: rest) true (d :: rest) := by
  have hother : d ≠ 'I' := by
    rintro rfl
    exact absurd hd (by decide)
  rw [readWord.eq_7 _ fun _ h => hother (List.cons.inj h).1]

/-- A word is read where something follows that cannot go on with it. -/
theorem readWord_append {front rest : List Char} {value : Json} (h : Word front value)
    (hrest : Ends rest) : readWord (front ++ rest) = .ok (value, rest) := by
  cases h with
  | null | isTrue | isFalse | nan | infinity | minusInfinity => rfl
  | number hnumber =>
      obtain ⟨d, behind, rfl, hd⟩ := hnumber.head
      rw [List.cons_append, readWord_of_digit hd]
      exact readNumber_append hnumber hrest _
  | minus hnumber =>
      obtain ⟨d, behind, rfl, hd⟩ := hnumber.head
      rw [List.cons_append, List.cons_append, readWord_minus_of_digit hd]
      exact readNumber_append hnumber hrest _

end AlertRelay.Json

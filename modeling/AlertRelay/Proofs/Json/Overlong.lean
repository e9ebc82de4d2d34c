import AlertRelay.Proofs.Json.Reading

/-!
# Texts with an Integer of Too Many Digits

A text has no value because it is malformed, or because it has an integer of more digits than can
be converted. The second happens even in a text that is malformed further on: whatever stands
behind the integer is not read any more. What stands in front of it has to be well formed, and has
to leave the place open in which the integer stands.

So a text **runs into** such an integer when it goes on from brackets that are open, complete items
and members, and a key if a value is due, to the digits. This is told with the grammar, without the
reader, and the reader gives up over the length of an integer in just these texts.

As with the values that are read, soundness is by induction on the fuel and completeness by
induction on the derivation. An open bracket costs two calls here, one for the value and one for
what it holds, and none is paid for by a bracket that closes it: so the fuel has to cover the
characters twice.

## Main definitions

* `Json.LongInteger`: a text that begins with an integer of too many digits.
* `Json.RunsInto`: **the texts that run into one**.

## Main results

* `Json.readWord_long_iff`: the words that are integers of too many digits.
* `Json.meets_sound`, `Json.RunsInto.meets`: the readers and the texts that run into an integer.
* `Json.read_long_iff`: **when the reader gives up over an integer**.
-/

namespace AlertRelay.Json

open AlertRelay.Number AlertRelay.Text

/-! ### Numbers -/

/-- A text that begins with an integer of too many digits: no digit, no fraction and no power goes
on with it. -/
inductive LongInteger (digits : ℕ) : List Char → Prop
  | mk {whole rest : List Char} : IsWhole whole → whole.length = digits → digitLimit < digits →
      Stops isAsciiDigit rest →
      (∀ {front row after : List Char}, rest = front ++ after → Fraction front row → front = []) →
      (∀ {front after : List Char} {exponent : Option ℤ}, rest = front ++ after →
        Power front exponent → front = []) →
      LongInteger digits (whole ++ rest)

/-- A row of digits in front of a text is found in it, perhaps with more digits. -/
theorem splitDigits_of_row {row after digits rest : List Char} (hrow : IsRow row)
    (h : splitDigits (row ++ after) = (digits, rest)) : digits ≠ [] := by
  obtain ⟨hne, hdigits⟩ := hrow
  obtain ⟨d, row, rfl⟩ := List.exists_cons_of_ne_nil hne
  obtain ⟨hsplit, -, hstops⟩ := splitDigits_iff.mp h
  rintro rfl
  have hd : isAsciiDigit d = true := hdigits d List.mem_cons_self
  have hstop : isAsciiDigit d = false := hstops d (by rw [← List.nil_append rest, ← hsplit]; rfl)
  rw [hd] at hstop
  cases hstop

/-- No fraction is split off exactly where a text begins with none. -/
theorem splitPoint_absent_iff {s : List Char} :
    splitPoint s = ([], s) ↔
      ∀ {front row after : List Char}, s = front ++ after → Fraction front row → front = [] := by
  constructor
  · intro hsplit front row after hs hfront
    cases hfront with
    | absent => rfl
    | digits hrow =>
        rw [hs, List.cons_append, splitPoint] at hsplit
        split at hsplit
        · next hdigits => exact absurd rfl (splitDigits_of_row hrow hdigits)
        · next hsome => exact absurd hsplit (hsome _)
  · intro h
    rcases hsplit : splitPoint s with ⟨digits, rest⟩
    obtain ⟨fraction, hs, hfraction⟩ := splitPoint_sound hsplit
    have hempty : fraction = [] := h hs hfraction
    rw [hfraction.eq_nil_iff.mpr hempty, hs, hempty, List.nil_append]

/-- No power is split off exactly where a text begins with none. -/
theorem splitPower_absent_iff {s : List Char} :
    splitPower s = (none, s) ↔
      ∀ {front after : List Char} {exponent : Option ℤ}, s = front ++ after →
        Power front exponent → front = [] := by
  constructor
  · intro hsplit front after exponent hs hfront
    cases hfront with
    | absent => rfl
    | digits he hsign hrow =>
        rw [hs, List.cons_append, List.append_assoc, splitPower, if_pos he,
          splitSign_append hsign hrow.head] at hsplit
        dsimp only at hsplit
        split at hsplit
        · next hdigits => exact absurd rfl (splitDigits_of_row hrow hdigits)
        · cases hsplit
  · intro h
    rcases hsplit : splitPower s with ⟨exponent, rest⟩
    obtain ⟨power, hs, hpower⟩ := splitPower_sound hsplit
    have hempty : power = [] := h hs hpower
    rw [hpower.eq_none_iff.mpr hempty, hs, hempty, List.nil_append]

/-- A whole part of more than one digit is split off where its digits end. -/
theorem stops_of_splitWhole {s whole rest : List Char} (h : splitWhole s = some (whole, rest))
    (hlong : 1 < whole.length) : Stops isAsciiDigit rest := by
  rw [splitWhole.eq_def] at h
  split at h
  · cases h
    exact absurd hlong (Nat.lt_irrefl 1)
  · split at h
    · cases h
    · exact (splitDigits_iff.mp (Option.some.inj h)).2.2

/-- The number that is too long for the reader is an integer of too many digits. -/
theorem readNumber_long_iff {start s : List Char} {negative : Bool} {digits : ℕ} :
    readNumber start negative s = .error (.longInteger digits) ↔ LongInteger digits s := by
  constructor
  · intro h
    rw [readNumber] at h
    rcases hwhole : splitWhole s with _ | ⟨whole, afterWhole⟩
    · rw [hwhole] at h
      cases h
    · rcases hpoint : splitPoint afterWhole with ⟨row, afterPoint⟩
      rcases hpower : splitPower afterPoint with ⟨exponent, behind⟩
      simp only [hwhole, hpoint, hpower] at h
      split at h
      · next hint =>
          obtain ⟨rfl, rfl⟩ := hint
          split at h
          · next hlimit =>
              cases h
              have hlong : 1 < whole.length := Nat.lt_trans (by decide) hlimit
              have hstops := stops_of_splitWhole hwhole hlong
              obtain ⟨rfl, isWhole⟩ := splitWhole_sound hwhole
              obtain ⟨fraction, rfl, isFraction⟩ := splitPoint_sound hpoint
              obtain ⟨power, rfl, isPower⟩ := splitPower_sound hpower
              obtain rfl : fraction = [] := isFraction.eq_nil_iff.mp rfl
              obtain rfl : power = [] := isPower.eq_none_iff.mp rfl
              exact .mk isWhole rfl hlimit hstops (splitPoint_absent_iff.mp hpoint)
                (splitPower_absent_iff.mp hpower)
          · cases h
      · cases h
  · rintro ⟨hwhole, rfl, hlimit, hstops, hpoint, hpower⟩
    rw [readNumber, splitWhole_append hwhole hstops]
    simp only [splitPoint_absent_iff.mpr hpoint, splitPower_absent_iff.mpr hpower, and_self,
      if_true, if_pos hlimit]

/-- A row of too many digits with something behind it that is no part of a number. -/
theorem LongInteger.of_row_append {row after : List Char} (hrow : IsRow row)
    (hhead : row.head? ≠ some '0') (hlimit : digitLimit < row.length)
    (hstops : Stops isAsciiDigit after)
    (hafter : ∀ c, after.head? = some c → c ≠ '.' ∧ c ≠ 'e' ∧ c ≠ 'E') :
    LongInteger row.length (row ++ after) := by
  refine .mk (.inr ⟨hrow, hhead⟩) rfl hlimit hstops ?_ ?_
  · rintro front digits rest rfl hfraction
    cases hfraction with
    | absent => rfl
    | digits => exact absurd rfl (hafter '.' rfl).1
  · rintro front rest exponent rfl hpower
    cases hpower with
    | absent => rfl
    | digits he => exact absurd he (not_or.mpr (hafter _ rfl).2)

/-- A row of too many digits that has nothing behind it. -/
theorem LongInteger.of_row {row : List Char} (hrow : IsRow row) (hhead : row.head? ≠ some '0')
    (hlimit : digitLimit < row.length) : LongInteger row.length row := by
  have hlong : LongInteger row.length (row ++ []) := of_row_append hrow hhead hlimit nofun nofun
  rwa [List.append_nil] at hlong

/-- An integer begins with a digit. -/
theorem LongInteger.head {s : List Char} {digits : ℕ} (h : LongInteger digits s) :
    ∃ d rest, s = d :: rest ∧ isAsciiDigit d = true := by
  obtain ⟨hwhole, -, -, -, -, -⟩ := h
  exact hwhole.head _

/-- **The words that are integers of too many digits**, with a minus or without. -/
theorem readWord_long_iff {s : List Char} {digits : ℕ} :
    readWord s = .error (.longInteger digits) ↔
      LongInteger digits s ∨ ∃ rest, s = '-' :: rest ∧ LongInteger digits rest := by
  constructor
  · intro h
    rw [readWord.eq_def] at h
    split at h
    · cases h
    · cases h
    · cases h
    · cases h
    · cases h
    · cases h
    · exact .inr ⟨_, rfl, readNumber_long_iff.mp h⟩
    · exact .inl (readNumber_long_iff.mp h)
  · rintro (hlong | ⟨rest, rfl, hlong⟩)
    · obtain ⟨d, behind, rfl, hd⟩ := hlong.head
      rw [readWord_of_digit hd]
      exact readNumber_long_iff.mpr hlong
    · obtain ⟨d, behind, rfl, hd⟩ := hlong.head
      rw [readWord_minus_of_digit hd]
      exact readNumber_long_iff.mpr hlong

/-! ### Texts that run into an integer -/

/-- Where the reader stands: in front of a value, bare or with blanks before it, of the items of an
array, or of the members of an object. -/
inductive Place
  | value
  | slot
  | items
  | members

/-- **The texts that run into an integer of too many digits.** In front of it stand brackets that
are open, items and members that are complete, and the key of the value that is due. -/
inductive RunsInto (digits : ℕ) : List Char → Place → Prop
  | number {s : List Char} : LongInteger digits s → RunsInto digits s .value
  | minus {s : List Char} : LongInteger digits s → RunsInto digits ('-' :: s) .value
  | array {s : List Char} : RunsInto digits s .items → RunsInto digits ('[' :: s) .value
  | object {s : List Char} : RunsInto digits s .members → RunsInto digits ('{' :: s) .value
  | slot {before s : List Char} : IsOf isSpace before → RunsInto digits s .value →
      RunsInto digits (before ++ s) .slot
  | item {s : List Char} : RunsInto digits s .slot → RunsInto digits s .items
  | laterItem {s rest : List Char} {value : Json} : Spells s (.slot value) →
      RunsInto digits rest .items → RunsInto digits (s ++ ',' :: rest) .items
  | member {before body after s : List Char} {pieces : List Piece} : IsOf isSpace before →
      Spelling body pieces → IsOf isSpace after → RunsInto digits s .slot →
      RunsInto digits (before ++ '"' :: (body ++ '"' :: (after ++ ':' :: s))) .members
  | laterMember {s rest : List Char} {key : String} {value : Json} :
      Spells s (.member key value) → RunsInto digits rest .members →
      RunsInto digits (s ++ ',' :: rest) .members

variable {digits : ℕ}

/-- Blanks may be added in front of all but a bare value. -/
theorem RunsInto.indent {s before : List Char} {place : Place} (h : RunsInto digits s place)
    (hbare : place ≠ .value) (hbefore : IsOf isSpace before) :
    RunsInto digits (before ++ s) place := by
  induction h with
  | number | minus | array | object => exact absurd rfl hbare
  | slot hspace hvalue =>
      rw [← List.append_assoc]
      exact .slot (hbefore.append hspace) hvalue
  | item _ ih => exact .item (ih nofun)
  | laterItem hspells hrest =>
      rw [← List.append_assoc]
      exact .laterItem (hspells.indent nofun hbefore) hrest
  | member hspace hkey hcolon hvalue =>
      rw [← List.append_assoc]
      exact .member (hbefore.append hspace) hkey hcolon hvalue
  | laterMember hspells hrest =>
      rw [← List.append_assoc]
      exact .laterMember (hspells.indent nofun hbefore) hrest

/-- A value that runs into an integer begins as values do. -/
theorem RunsInto.head_value {s : List Char} (h : RunsInto digits s .value) :
    ∃ c rest, s = c :: rest ∧ opens c = true := by
  cases h with
  | number hlong =>
      obtain ⟨d, rest, rfl, hd⟩ := hlong.head
      exact ⟨d, rest, rfl, by rw [opens, beginsWord, hd, Bool.or_true, Bool.or_true]⟩
  | minus | array | object => exact ⟨_, _, rfl, by decide⟩

/-- A text that runs into an integer begins with blanks and a character that opens a value. -/
theorem RunsInto.head {s : List Char} {place : Place} (h : RunsInto digits s place) :
    ∃ before c rest, s = before ++ c :: rest ∧ IsOf isSpace before ∧ opens c = true := by
  have hlater {s rest : List Char} {phrase : Phrase} (h : Spells s phrase) :
      ∃ before c more, s ++ ',' :: rest = before ++ c :: more ∧ IsOf isSpace before ∧
        opens c = true := by
    obtain ⟨before, c, more, rfl, hbefore, hc⟩ := h.head
    exact ⟨before, c, _, List.append_assoc .., hbefore, hc⟩
  induction h with
  | number hlong =>
      obtain ⟨c, rest, rfl, hc⟩ := (RunsInto.number hlong).head_value
      exact ⟨[], c, rest, rfl, isOf_nil, hc⟩
  | minus | array | object => exact ⟨[], _, _, rfl, isOf_nil, by decide⟩
  | slot hspace hvalue =>
      obtain ⟨c, rest, rfl, hc⟩ := hvalue.head_value
      exact ⟨_, c, rest, rfl, hspace, hc⟩
  | item _ ih => exact ih
  | laterItem hspells => exact hlater hspells
  | member hspace => exact ⟨_, '"', _, rfl, hspace, by decide⟩
  | laterMember hspells => exact hlater hspells

/-- In front of it only blanks are skipped. -/
theorem RunsInto.skip {s : List Char} {place : Place} (h : RunsInto digits s place) :
    ∃ c rest, skipSpace s = c :: rest ∧ opens c = true := by
  obtain ⟨before, c, rest, rfl, hbefore, hc⟩ := h.head
  exact ⟨c, rest, skipSpace_of_opens hbefore hc rest, hc⟩

/-- A text that runs into an integer begins with no byte order mark. -/
theorem RunsInto.not_mark {s : List Char} {place : Place} (h : RunsInto digits s place)
    (rest : List Char) : s ≠ Char.ofNat 0xfeff :: rest := by
  obtain ⟨before, c, more, rfl, hbefore, hc⟩ := h.head
  exact ne_mark_of_opens hbefore hc more rest

/-! ### What was not read -/

/-- A sequence of two readings fails in the first, or in the second after it. -/
theorem bind_error_iff {ε α β : Type} {x : Except ε α} {next : α → Except ε β} {fault : ε} :
    (x >>= next) = .error fault ↔ x = .error fault ∨ ∃ a, x = .ok a ∧ next a = .error fault := by
  cases x with
  | error other =>
      constructor
      · rintro ⟨⟩
        exact .inl rfl
      · rintro (⟨⟨⟩⟩ | ⟨_, ⟨⟩, -⟩)
        rfl
  | ok a =>
      constructor
      · intro h
        exact .inr ⟨a, rfl, h⟩
      · rintro (⟨⟨⟩⟩ | ⟨_, ⟨⟩, h⟩)
        exact h

/-- No text between quotes is too long. -/
theorem readText_ne_long {opening s : List Char} {pending : Option ℕ} {done : List Char} :
    readText opening pending done s ≠ .error (.longInteger digits) := by
  fun_induction readText opening pending done s with
  | case1 | case2 | case3 | case4 | case6 | case8 | case9 | case10 =>
      intro h
      cases h
  | case5 _ _ _ _ _ _ _ _ _ _ _ ih => exact ih
  | case7 _ _ _ _ _ _ _ ih => exact ih
  | case11 _ _ _ _ _ _ _ _ _ ih => exact ih

/-- Where an integer was too long if a value was not read. -/
theorem readValue_long_cases {fuel : ℕ} {s : List Char}
    (h : readValue (fuel + 1) s = .error (.longInteger digits)) :
    (∃ opened, s = '{' :: opened ∧
        readMembers fuel [] (skipSpace opened) = .error (.longInteger digits)) ∨
      (∃ opened, s = '[' :: opened ∧
        readItems fuel [] (skipSpace opened) = .error (.longInteger digits)) ∨
      readWord s = .error (.longInteger digits) := by
  rw [readValue.eq_def] at h
  dsimp only at h
  split at h
  · obtain htext | ⟨_, _, hresult⟩ := bind_error_iff.mp h
    · exact absurd htext readText_ne_long
    · cases hresult
  · next opened =>
      split at h
      · cases h
      · obtain hmembers | ⟨_, _, hresult⟩ := bind_error_iff.mp h
        · exact .inl ⟨opened, rfl, hmembers⟩
        · cases hresult
  · next opened =>
      split at h
      · cases h
      · obtain hitems | ⟨_, _, hresult⟩ := bind_error_iff.mp h
        · exact .inr (.inl ⟨opened, rfl, hitems⟩)
        · cases hresult
  · exact .inr (.inr h)

/-- Where an integer was too long if the members of an object were not read. -/
theorem readMembers_long_cases {fuel : ℕ} {done : List (String × Json)} {s : List Char}
    (h : readMembers (fuel + 1) done s = .error (.longInteger digits)) :
    ∃ opened key afterKey afterColon,
      s = '"' :: opened ∧ readText s none [] opened = .ok (key, afterKey) ∧
      skipSpace afterKey = ':' :: afterColon ∧
      (readValue fuel (skipSpace afterColon) = .error (.longInteger digits) ∨
        ∃ value afterValue after,
          readValue fuel (skipSpace afterColon) = .ok (value, afterValue) ∧
          skipSpace afterValue = ',' :: after ∧
          readMembers fuel (Table.put key value done) (skipSpace after) =
            .error (.longInteger digits)) := by
  rw [readMembers.eq_def] at h
  dsimp only at h
  split at h
  · next opened =>
      obtain htext | ⟨⟨key, afterKey⟩, hkey, h⟩ := bind_error_iff.mp h
      · exact absurd htext readText_ne_long
      · dsimp only at h
        split at h
        · next afterColon hcolon =>
            refine ⟨opened, key, afterKey, afterColon, rfl, hkey, hcolon, ?_⟩
            obtain hvalue | ⟨⟨value, afterValue⟩, hvalue, h⟩ := bind_error_iff.mp h
            · exact .inl hvalue
            · dsimp only at h
              split at h
              · cases h
              · next after hcomma => exact .inr ⟨value, afterValue, after, hvalue, hcomma, h⟩
              · cases h
        · cases h
  · cases h

/-- Where an integer was too long if the items of an array were not read. -/
theorem readItems_long_cases {fuel : ℕ} {done : List Json} {s : List Char}
    (h : readItems (fuel + 1) done s = .error (.longInteger digits)) :
    readValue fuel s = .error (.longInteger digits) ∨
      ∃ value afterValue after, readValue fuel s = .ok (value, afterValue) ∧
        skipSpace afterValue = ',' :: after ∧
        readItems fuel (value :: done) (skipSpace after) = .error (.longInteger digits) := by
  rw [readItems.eq_def] at h
  obtain hvalue | ⟨⟨value, afterValue⟩, hvalue, h⟩ := bind_error_iff.mp h
  · exact .inl hvalue
  · dsimp only at h
    split at h
    · cases h
    · next after hcomma => exact .inr ⟨value, afterValue, after, hvalue, hcomma, h⟩
    · cases h

/-! ### Soundness -/

/-- Where the readers give up over an integer with some fuel, the text runs into it. -/
structure Meets (fuel digits : ℕ) : Prop where
  value : ∀ {s : List Char}, readValue fuel s = .error (.longInteger digits) →
    RunsInto digits s .value
  members : ∀ {done : List (String × Json)} {s : List Char},
    readMembers fuel done s = .error (.longInteger digits) → RunsInto digits s .members
  items : ∀ {done : List Json} {s : List Char},
    readItems fuel done s = .error (.longInteger digits) → RunsInto digits s .items

/-- Without fuel nothing is read. -/
theorem meets_zero : Meets 0 digits where
  value h := by
    rw [readValue] at h
    cases h
  members h := by
    rw [readMembers] at h
    cases h
  items h := by
    rw [readItems] at h
    cases h

/-- A value is given up over an integer within it, or over itself. -/
theorem Meets.value_succ {fuel : ℕ} (ih : Meets fuel digits) {s : List Char}
    (h : readValue (fuel + 1) s = .error (.longInteger digits)) : RunsInto digits s .value := by
  obtain ⟨opened, rfl, hmembers⟩ | ⟨opened, rfl, hitems⟩ | hword := readValue_long_cases h
  · obtain ⟨before, hopened, hbefore, -⟩ := skipSpace_sound opened
    rw [hopened]
    exact .object ((ih.members hmembers).indent nofun hbefore)
  · obtain ⟨before, hopened, hbefore, -⟩ := skipSpace_sound opened
    rw [hopened]
    exact .array ((ih.items hitems).indent nofun hbefore)
  · obtain hlong | ⟨rest, rfl, hlong⟩ := readWord_long_iff.mp hword
    · exact .number hlong
    · exact .minus hlong

/-- Members are given up over an integer in the first value or behind it. -/
theorem Meets.members_succ {fuel : ℕ} (ih : Meets fuel digits) {done : List (String × Json)}
    {s : List Char} (h : readMembers (fuel + 1) done s = .error (.longInteger digits)) :
    RunsInto digits s .members := by
  obtain ⟨opened, key, afterKey, afterColon, rfl, hkey, hcolon, hend⟩ := readMembers_long_cases h
  obtain ⟨body, pieces, rfl, hspelling, rfl⟩ := readText_iff.mp hkey
  obtain ⟨beforeColon, hafterKey, hbeforeColon, -⟩ := skipSpace_sound afterKey
  obtain ⟨before, hafterColon, hbefore, -⟩ := skipSpace_sound afterColon
  rw [hafterKey, hcolon, hafterColon]
  obtain hvalue | ⟨value, afterValue, after, hvalue, hcomma, hmore⟩ := hend
  · exact .member isOf_nil hspelling hbeforeColon (.slot hbefore (ih.value hvalue))
  · obtain ⟨front, hfront, hspells⟩ := (reads_sound fuel).value hvalue
    obtain ⟨between, hbehind, hbetween, -⟩ := skipSpace_sound afterValue
    obtain ⟨indent, hafter, hindent, -⟩ := skipSpace_sound after
    rw [hfront, hbehind, hcomma, hafter]
    have hmember := Spells.pair isOf_nil hspelling hbeforeColon (.slot hbefore hspells hbetween)
    have hruns := RunsInto.laterMember hmember ((ih.members hmore).indent nofun hindent)
    -- The same characters, put together in another order.
    simpa using hruns

/-- Items are given up over an integer in the first one or behind it. -/
theorem Meets.items_succ {fuel : ℕ} (ih : Meets fuel digits) {done : List Json} {s : List Char}
    (h : readItems (fuel + 1) done s = .error (.longInteger digits)) :
    RunsInto digits s .items := by
  obtain hvalue | ⟨value, afterValue, after, hvalue, hcomma, hmore⟩ := readItems_long_cases h
  · exact .item (.slot isOf_nil (ih.value hvalue))
  · obtain ⟨front, rfl, hspells⟩ := (reads_sound fuel).value hvalue
    obtain ⟨between, hbehind, hbetween, -⟩ := skipSpace_sound afterValue
    obtain ⟨indent, hafter, hindent, -⟩ := skipSpace_sound after
    rw [hbehind, hcomma, hafter, ← List.append_assoc]
    exact .laterItem (.slot isOf_nil hspells hbetween) ((ih.items hmore).indent nofun hindent)

/-- **Where the readers give up over an integer, the text runs into it**, with any fuel. -/
theorem meets_sound (fuel : ℕ) : Meets fuel digits := by
  induction fuel with
  | zero => exact meets_zero
  | succ fuel ih => exact ⟨ih.value_succ, ih.members_succ, ih.items_succ⟩

/-! ### Completeness -/

/-- The readers give up over an integer of so many digits, with fuel for twice the characters. -/
def Meeting (digits : ℕ) (s : List Char) : Place → Prop
  | .value => ∀ fuel, 2 * s.length ≤ fuel → readValue fuel s = .error (.longInteger digits)
  | .slot => ∀ fuel, 2 * s.length ≤ fuel →
      readValue fuel (skipSpace s) = .error (.longInteger digits)
  | .items => ∀ (fuel : ℕ) (done : List Json), 2 * s.length < fuel →
      readItems fuel done (skipSpace s) = .error (.longInteger digits)
  | .members => ∀ (fuel : ℕ) (done : List (String × Json)), 2 * s.length < fuel →
      readMembers fuel done (skipSpace s) = .error (.longInteger digits)

/-- **A text that runs into an integer is not read.** -/
theorem RunsInto.meets {s : List Char} {place : Place} (h : RunsInto digits s place) :
    Meeting digits s place := by
  induction h with
  | number hlong =>
      intro fuel hfuel
      obtain ⟨d, rest, rfl, hd⟩ := hlong.head
      simp only [List.length_cons] at hfuel
      obtain ⟨fuel, rfl⟩ := Nat.exists_eq_add_one_of_ne_zero (n := fuel) (by omega)
      rw [readValue_of_beginsWord (by rw [beginsWord, hd, Bool.or_true])]
      exact readWord_long_iff.mpr (.inl hlong)
  | @minus rest hlong =>
      intro fuel hfuel
      simp only [List.length_cons] at hfuel
      obtain ⟨fuel, rfl⟩ := Nat.exists_eq_add_one_of_ne_zero (n := fuel) (by omega)
      rw [readValue_of_beginsWord (by decide)]
      exact readWord_long_iff.mpr (.inr ⟨rest, rfl, hlong⟩)
  | @array s hitems ih =>
      intro fuel hfuel
      simp only [List.length_cons] at hfuel
      obtain ⟨fuel, rfl⟩ := Nat.exists_eq_add_one_of_ne_zero (n := fuel) (by omega)
      obtain ⟨c, rest, hskip, hc⟩ := hitems.skip
      rw [readValue_array hskip hc, ih fuel [] (by omega)]
      rfl
  | @object s hmembers ih =>
      intro fuel hfuel
      simp only [List.length_cons] at hfuel
      obtain ⟨fuel, rfl⟩ := Nat.exists_eq_add_one_of_ne_zero (n := fuel) (by omega)
      obtain ⟨c, rest, hskip, hc⟩ := hmembers.skip
      rw [readValue_object hskip hc, ih fuel [] (by omega)]
      rfl
  | slot hspace hvalue ih =>
      intro fuel hfuel
      obtain ⟨c, rest, rfl, hc⟩ := hvalue.head_value
      rw [skipSpace_of_opens hspace hc]
      refine ih fuel ?_
      rw [List.length_append] at hfuel
      omega
  | item hvalue ih =>
      intro fuel done hfuel
      obtain ⟨fuel, rfl⟩ := Nat.exists_eq_add_one_of_ne_zero (Nat.ne_zero_of_lt hfuel)
      rw [readItems.eq_2, ih fuel (by omega)]
      rfl
  | @laterItem s rest value hspells hrest ih =>
      intro fuel done hfuel
      obtain ⟨fuel, rfl⟩ := Nat.exists_eq_add_one_of_ne_zero (Nat.ne_zero_of_lt hfuel)
      simp only [List.length_append, List.length_cons] at hfuel
      have hreads : Reads s (.slot value) := hspells.reads
      obtain ⟨after, hread, hafter⟩ :=
        hreads fuel (',' :: rest) (by omega) (separates_of (by decide) _)
      rw [readItems_of hread, hafter]
      exact ih fuel (value :: done) (by omega)
  | @member before body between s pieces hbefore hspelling hbetween hvalue ih =>
      intro fuel done hfuel
      obtain ⟨fuel, rfl⟩ := Nat.exists_eq_add_one_of_ne_zero (Nat.ne_zero_of_lt hfuel)
      simp only [List.length_append, List.length_cons] at hfuel
      have hkey := readText_append hspelling isHeld_none
        ('"' :: (body ++ '"' :: (between ++ ':' :: s))) [] (between ++ ':' :: s)
      have hcolon : skipSpace (between ++ ':' :: s) = ':' :: s := by
        refine skipSpace_append hbetween ?_
        rintro _ ⟨⟩
        decide
      rw [skipSpace_of_opens hbefore (by decide), readMembers.eq_2, hkey]
      simp only [bind, Except.bind, hcolon]
      rw [ih fuel (by omega)]
  | @laterMember s rest key value hspells hrest ih =>
      intro fuel done hfuel
      obtain ⟨fuel, rfl⟩ := Nat.exists_eq_add_one_of_ne_zero (Nat.ne_zero_of_lt hfuel)
      simp only [List.length_append, List.length_cons] at hfuel
      have hreads : Reads s (.member key value) := hspells.reads
      obtain ⟨opened, afterKey, afterColon, after, hopened, hkey, hcolon, hvalue, hafter⟩ :=
        hreads fuel (',' :: rest) (by omega) (separates_of (by decide) _)
      rw [hopened, readMembers_of hkey hcolon hvalue, hafter]
      exact ih fuel (Table.put key value done) (by omega)

/-! ### Whole texts -/

/-- A whole text is given up over an integer exactly if it runs into one. -/
theorem readWhole_go_long_iff {s : List Char} :
    readWhole.go s = .error (.longInteger digits) ↔ RunsInto digits s .slot := by
  constructor
  · intro h
    obtain hread | ⟨⟨result, after⟩, -, h⟩ := bind_error_iff.mp h
    · obtain ⟨before, hs, hbefore, -⟩ := skipSpace_sound s
      rw [hs]
      exact .slot hbefore ((meets_sound _).value hread)
    · dsimp only at h
      split at h <;> cases h
  · intro h
    have hmeets : Meeting digits s .slot := h.meets
    rw [readWhole.go, hmeets (2 * s.length + 2) (by omega)]
    rfl

/-- **When the reader gives up over an integer**: exactly when the text runs into one that has too
many digits. -/
theorem read_long_iff {text : String} :
    read text = .error (.longInteger digits) ↔ RunsInto digits text.toList .slot := by
  have hwhole : read text = .error (.longInteger digits) ↔
      readWhole text.toList = .error (.longInteger digits) := by
    rw [read]
    constructor
    · intro h
      split at h
      · cases h
      · cases h
      · next hread =>
          rw [hread]
          cases h
          rfl
    · intro h
      rw [h]
  have hgo : readWhole text.toList = .error (.longInteger digits) ↔
      readWhole.go text.toList = .error (.longInteger digits) := by
    refine readWhole_iff_go ?_ fun h => (readWhole_go_long_iff.mp h).not_mark
    intro rest h
    cases h
  rw [hwhole, hgo, readWhole_go_long_iff]

end AlertRelay.Json

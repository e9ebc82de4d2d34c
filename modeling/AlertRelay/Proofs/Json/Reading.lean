import AlertRelay.Proofs.Json.Tokens

/-!
# Reading JSON Texts

The reader accepts exactly the texts that the grammar derives, each with its value.

Soundness is by induction on the fuel, for the three readers at once. Completeness is by induction
on the derivation. A value is read where something follows that cannot go on with it, and the
fuel has to cover the characters that spell it, because every call of a reader is paid for by a
bracket, a comma, or the first character of a value.

## Main results

* `Json.reads_sound`, `Json.Spells.reads`: the readers and the grammar.
* `Json.read_iff`: **the reader accepts the grammar**.
-/

namespace AlertRelay.Json

open AlertRelay.Number AlertRelay.Text

/-! ### Blanks -/

/-- What is skipped is blank, and no blank follows it. -/
theorem skipSpace_sound (s : List Char) :
    ∃ before, s = before ++ skipSpace s ∧ IsOf isSpace before ∧ Stops isSpace (skipSpace s) :=
  ⟨s.takeWhile isSpace, List.takeWhile_append_dropWhile.symm, isOf_takeWhile isSpace s,
    stops_dropWhile isSpace s⟩

/-- The blanks in front of a text are skipped, and nothing else. -/
theorem skipSpace_append {before rest : List Char} (h : IsOf isSpace before)
    (hrest : Stops isSpace rest) : skipSpace (before ++ rest) = rest := dropWhile_append h hrest

/-- Blanks may be added in front of all but a bare value. -/
theorem Spells.indent {s before : List Char} {phrase : Phrase} (h : Spells s phrase)
    (hbare : ∀ value, phrase ≠ .value value) (hbefore : IsOf isSpace before) :
    Spells (before ++ s) phrase := by
  induction h with
  | word | text | emptyArray | array | emptyObject | object => exact absurd rfl (hbare _)
  | slot hspace hvalue hafter =>
      rw [← List.append_assoc]
      exact .slot (hbefore.append hspace) hvalue hafter
  | item _ ih => exact .item (ih nofun)
  | moreItems _ hrest ih =>
      rw [← List.append_assoc]
      exact .moreItems (ih nofun) hrest
  | pair hspace hkey hcolon hvalue =>
      rw [← List.append_assoc]
      exact .pair (hbefore.append hspace) hkey hcolon hvalue
  | member _ ih => exact .member (ih nofun)
  | moreMembers _ hrest ih =>
      rw [← List.append_assoc]
      exact .moreMembers (ih nofun) hrest

/-! ### What was read -/

/-- A sequence of two readings succeeds exactly if both do. -/
theorem bind_eq_ok_iff {ε α β : Type} {x : Except ε α} {next : α → Except ε β} {b : β} :
    (x >>= next) = .ok b ↔ ∃ a, x = .ok a ∧ next a = .ok b := by
  cases x with
  | error fault =>
      refine iff_of_false nofun ?_
      rintro ⟨_, ⟨⟩, -⟩
  | ok a =>
      constructor
      · intro h
        exact ⟨a, rfl, h⟩
      · rintro ⟨_, ⟨⟩, h⟩
        exact h

/-- What was read if a value was. -/
theorem readValue_cases {fuel : ℕ} {s rest : List Char} {value : Json}
    (h : readValue (fuel + 1) s = .ok (value, rest)) :
    (∃ opened text, s = '"' :: opened ∧ value = .string text ∧
        readText s none [] opened = .ok (text, rest)) ∨
      (∃ opened members, s = '{' :: opened ∧ value = .object members ∧
        (skipSpace opened = '}' :: rest ∧ members = [] ∨
          readMembers fuel [] (skipSpace opened) = .ok (members, rest))) ∨
      (∃ opened items, s = '[' :: opened ∧ value = .array items ∧
        (skipSpace opened = ']' :: rest ∧ items = [] ∨
          readItems fuel [] (skipSpace opened) = .ok (items, rest))) ∨
      readWord s = .ok (value, rest) := by
  rw [readValue.eq_def] at h
  dsimp only at h
  split at h
  · next opened =>
      obtain ⟨⟨text, after⟩, htext, hresult⟩ := bind_eq_ok_iff.mp h
      cases hresult
      exact .inl ⟨opened, text, rfl, rfl, htext⟩
  · next opened =>
      refine .inr (.inl ?_)
      split at h
      · next after hclose =>
          cases h
          exact ⟨opened, [], rfl, rfl, .inl ⟨hclose, rfl⟩⟩
      · obtain ⟨⟨members, after⟩, hmembers, hresult⟩ := bind_eq_ok_iff.mp h
        cases hresult
        exact ⟨opened, members, rfl, rfl, .inr hmembers⟩
  · next opened =>
      refine .inr (.inr (.inl ?_))
      split at h
      · next after hclose =>
          cases h
          exact ⟨opened, [], rfl, rfl, .inl ⟨hclose, rfl⟩⟩
      · obtain ⟨⟨items, after⟩, hitems, hresult⟩ := bind_eq_ok_iff.mp h
        cases hresult
        exact ⟨opened, items, rfl, rfl, .inr hitems⟩
  · exact .inr (.inr (.inr h))

/-- What was read if the members of an object were. -/
theorem readMembers_cases {fuel : ℕ} {done members : List (String × Json)} {s rest : List Char}
    (h : readMembers (fuel + 1) done s = .ok (members, rest)) :
    ∃ opened key afterKey afterColon value afterValue,
      s = '"' :: opened ∧ readText s none [] opened = .ok (key, afterKey) ∧
      skipSpace afterKey = ':' :: afterColon ∧
      readValue fuel (skipSpace afterColon) = .ok (value, afterValue) ∧
      (skipSpace afterValue = '}' :: rest ∧ members = Table.put key value done ∨
        ∃ after, skipSpace afterValue = ',' :: after ∧
          readMembers fuel (Table.put key value done) (skipSpace after) = .ok (members, rest)) := by
  rw [readMembers.eq_def] at h
  dsimp only at h
  split at h
  · next opened =>
      obtain ⟨⟨key, afterKey⟩, hkey, h⟩ := bind_eq_ok_iff.mp h
      dsimp only at h
      split at h
      · next afterColon hcolon =>
          obtain ⟨⟨value, afterValue⟩, hvalue, h⟩ := bind_eq_ok_iff.mp h
          refine ⟨opened, key, afterKey, afterColon, value, afterValue, rfl, hkey, hcolon, hvalue,
            ?_⟩
          dsimp only at h
          split at h
          · next hclose =>
              cases h
              exact .inl ⟨hclose, rfl⟩
          · next after hcomma => exact .inr ⟨after, hcomma, h⟩
          · cases h
      · cases h
  · cases h

/-- What was read if the items of an array were. -/
theorem readItems_cases {fuel : ℕ} {done items : List Json} {s rest : List Char}
    (h : readItems (fuel + 1) done s = .ok (items, rest)) :
    ∃ value afterValue, readValue fuel s = .ok (value, afterValue) ∧
      (skipSpace afterValue = ']' :: rest ∧ items = (value :: done).reverse ∨
        ∃ after, skipSpace afterValue = ',' :: after ∧
          readItems fuel (value :: done) (skipSpace after) = .ok (items, rest)) := by
  rw [readItems.eq_def] at h
  obtain ⟨⟨value, afterValue⟩, hvalue, h⟩ := bind_eq_ok_iff.mp h
  refine ⟨value, afterValue, hvalue, ?_⟩
  dsimp only at h
  split at h
  · next hclose =>
      cases h
      exact .inl ⟨hclose, rfl⟩
  · next after hcomma => exact .inr ⟨after, hcomma, h⟩
  · cases h

/-! ### Soundness -/

/-- What the readers accept with some fuel is derived. -/
structure Sound (fuel : ℕ) : Prop where
  value : ∀ {s rest : List Char} {value : Json}, readValue fuel s = .ok (value, rest) →
    ∃ front, s = front ++ rest ∧ Spells front (.value value)
  members : ∀ {done members : List (String × Json)} {s rest : List Char},
    readMembers fuel done s = .ok (members, rest) →
    ∃ front pairs, s = front ++ '}' :: rest ∧ Spells front (.members pairs) ∧
      members = pairs.foldl (fun table p => Table.put p.1 p.2 table) done
  items : ∀ {done items : List Json} {s rest : List Char},
    readItems fuel done s = .ok (items, rest) →
    ∃ front more, s = front ++ ']' :: rest ∧ Spells front (.items more) ∧
      items = done.reverse ++ more

/-- Without fuel nothing is accepted. -/
theorem sound_zero : Sound 0 where
  value h := by
    rw [readValue] at h
    cases h
  members h := by
    rw [readMembers] at h
    cases h
  items h := by
    rw [readItems] at h
    cases h

/-- A bracket and what it opens is derived. -/
theorem Sound.value_succ {fuel : ℕ} (ih : Sound fuel) {s rest : List Char} {value : Json}
    (h : readValue (fuel + 1) s = .ok (value, rest)) :
    ∃ front, s = front ++ rest ∧ Spells front (.value value) := by
  obtain ⟨opened, text, rfl, rfl, htext⟩ | ⟨opened, members, rfl, rfl, hmembers⟩ |
    ⟨opened, items, rfl, rfl, hitems⟩ | hword := readValue_cases h
  · obtain ⟨body, pieces, rfl, hspelling, rfl⟩ := readText_iff.mp htext
    exact ⟨'"' :: (body ++ ['"']), by simp, .text hspelling⟩
  · obtain ⟨before, hopened, hbefore, -⟩ := skipSpace_sound opened
    obtain ⟨hclose, rfl⟩ | hmembers := hmembers
    · rw [hclose] at hopened
      exact ⟨'{' :: (before ++ ['}']), by rw [hopened]; simp, .emptyObject hbefore⟩
    · obtain ⟨front, pairs, hfront, hspells, rfl⟩ := ih.members hmembers
      rw [hfront] at hopened
      exact ⟨'{' :: (before ++ front ++ ['}']), by rw [hopened]; simp,
        .object (hspells.indent nofun hbefore) (Table.gathers_iff.mpr rfl)⟩
  · obtain ⟨before, hopened, hbefore, -⟩ := skipSpace_sound opened
    obtain ⟨hclose, rfl⟩ | hitems := hitems
    · rw [hclose] at hopened
      exact ⟨'[' :: (before ++ [']']), by rw [hopened]; simp, .emptyArray hbefore⟩
    · obtain ⟨front, more, hfront, hspells, rfl⟩ := ih.items hitems
      rw [hfront] at hopened
      exact ⟨'[' :: (before ++ front ++ [']']), by rw [hopened]; simp,
        .array (hspells.indent nofun hbefore)⟩
  · obtain ⟨front, rfl, hspells⟩ := readWord_sound hword
    exact ⟨front, rfl, .word hspells⟩

/-- A key, its value and the members behind them are derived. -/
theorem Sound.members_succ {fuel : ℕ} (ih : Sound fuel) {done members : List (String × Json)}
    {s rest : List Char} (h : readMembers (fuel + 1) done s = .ok (members, rest)) :
    ∃ front pairs, s = front ++ '}' :: rest ∧ Spells front (.members pairs) ∧
      members = pairs.foldl (fun table p => Table.put p.1 p.2 table) done := by
  obtain ⟨opened, key, afterKey, afterColon, value, afterValue, rfl, hkey, hcolon, hvalue, hend⟩ :=
    readMembers_cases h
  obtain ⟨body, pieces, rfl, hspelling, rfl⟩ := readText_iff.mp hkey
  obtain ⟨front, hfront, hspells⟩ := ih.value hvalue
  obtain ⟨beforeColon, hafterKey, hbeforeColon, -⟩ := skipSpace_sound afterKey
  obtain ⟨before, hafterColon, hbefore, -⟩ := skipSpace_sound afterColon
  obtain ⟨between, hbehind, hbetween, -⟩ := skipSpace_sound afterValue
  rw [hcolon] at hafterKey
  rw [hfront] at hafterColon
  have hmember := Spells.pair isOf_nil hspelling hbeforeColon (.slot hbefore hspells hbetween)
  obtain ⟨hclose, rfl⟩ | ⟨after, hcomma, hmore⟩ := hend
  · rw [hclose] at hbehind
    refine ⟨_, _, ?_, .member hmember, rfl⟩
    rw [hafterKey, hafterColon, hbehind]
    simp
  · obtain ⟨indent, hafter, hindent, -⟩ := skipSpace_sound after
    obtain ⟨front', pairs, hfront', hpairs, rfl⟩ := ih.members hmore
    rw [hfront'] at hafter
    rw [hcomma, hafter] at hbehind
    refine ⟨_, _, ?_, .moreMembers hmember (hpairs.indent nofun hindent), rfl⟩
    rw [hafterKey, hafterColon, hbehind]
    simp

/-- A value and the items behind it are derived. -/
theorem Sound.items_succ {fuel : ℕ} (ih : Sound fuel) {done items : List Json} {s rest : List Char}
    (h : readItems (fuel + 1) done s = .ok (items, rest)) :
    ∃ front more, s = front ++ ']' :: rest ∧ Spells front (.items more) ∧
      items = done.reverse ++ more := by
  obtain ⟨value, afterValue, hvalue, hend⟩ := readItems_cases h
  obtain ⟨front, rfl, hspells⟩ := ih.value hvalue
  obtain ⟨between, hbehind, hbetween, -⟩ := skipSpace_sound afterValue
  have hslot : Spells (front ++ between) (.slot value) := .slot isOf_nil hspells hbetween
  obtain ⟨hclose, rfl⟩ | ⟨after, hcomma, hmore⟩ := hend
  · rw [hclose] at hbehind
    exact ⟨front ++ between, [value], by rw [hbehind]; simp, .item hslot, List.reverse_cons⟩
  · obtain ⟨indent, hafter, hindent, -⟩ := skipSpace_sound after
    obtain ⟨front', more, hfront', hspells', rfl⟩ := ih.items hmore
    rw [hfront'] at hafter
    rw [hcomma, hafter] at hbehind
    exact ⟨front ++ between ++ ',' :: (indent ++ front'), value :: more,
      by rw [hbehind]; simp, .moreItems hslot (hspells'.indent nofun hindent), by simp⟩

/-- **What the readers accept is derived**, with any fuel. -/
theorem reads_sound (fuel : ℕ) : Sound fuel := by
  induction fuel with
  | zero => exact sound_zero
  | succ fuel ih => exact ⟨ih.value_succ, ih.members_succ, ih.items_succ⟩

/-! ### Completeness -/

/-- The characters that a value begins with. -/
def opens (c : Char) : Bool := c ∈ ['"', '[', '{'] || beginsWord c

/-- What opens a value is no blank. -/
theorem isSpace_of_opens {c : Char} (h : opens c = true) : isSpace c = false := by
  rw [← Bool.not_eq_true]
  intro hspace
  have hcases : c = ' ' ∨ c = '\t' ∨ c = '\n' ∨ c = '\r' := by
    simpa [isSpace, or_assoc] using hspace
  rcases hcases with rfl | rfl | rfl | rfl <;> exact absurd h (by decide)

/-- A value begins with a bracket, a brace, a quote, or what begins a word. -/
theorem Spells.head_value {s : List Char} {value : Json} (h : Spells s (.value value)) :
    ∃ c rest, s = c :: rest ∧ opens c = true := by
  cases h with
  | word hword =>
      obtain ⟨c, rest, rfl, hc⟩ := hword.head
      exact ⟨c, rest, rfl, by rw [opens, hc, Bool.or_true]⟩
  | text | emptyArray | array | emptyObject | object => exact ⟨_, _, rfl, by decide⟩

/-- A phrase begins with blanks and a character that opens a value. -/
theorem Spells.head {s : List Char} {phrase : Phrase} (h : Spells s phrase) :
    ∃ before c rest, s = before ++ c :: rest ∧ IsOf isSpace before ∧ opens c = true := by
  induction h with
  | word hword =>
      obtain ⟨c, rest, rfl, hc⟩ := (Spells.word hword).head_value
      exact ⟨[], c, rest, rfl, isOf_nil, hc⟩
  | text | emptyArray | array | emptyObject | object =>
      exact ⟨[], _, _, rfl, isOf_nil, by decide⟩
  | slot hspace hvalue hafter =>
      obtain ⟨c, rest, rfl, hc⟩ := hvalue.head_value
      exact ⟨_, c, _, rfl, hspace, hc⟩
  | item _ ih => exact ih
  | member _ ih => exact ih
  | moreItems _ _ ih =>
      obtain ⟨before, c, rest, rfl, hbefore, hc⟩ := ih
      exact ⟨before, c, _, List.append_assoc .., hbefore, hc⟩
  | moreMembers _ _ ih =>
      obtain ⟨before, c, rest, rfl, hbefore, hc⟩ := ih
      exact ⟨before, c, _, List.append_assoc .., hbefore, hc⟩
  | pair hspace => exact ⟨_, '"', _, rfl, hspace, by decide⟩

/-- Blanks in front of a value are skipped up to it. -/
theorem skipSpace_of_opens {before : List Char} (hbefore : IsOf isSpace before) {c : Char}
    (hc : opens c = true) (rest : List Char) : skipSpace (before ++ c :: rest) = c :: rest := by
  refine skipSpace_append hbefore ?_
  rintro _ ⟨⟩
  exact isSpace_of_opens hc

/-- Behind the blanks in front of a phrase stands a character that opens a value. -/
theorem Spells.skip {s : List Char} {phrase : Phrase} (h : Spells s phrase) (behind : List Char) :
    ∃ c rest, skipSpace (s ++ behind) = c :: rest ∧ opens c = true := by
  obtain ⟨before, c, rest, rfl, hbefore, hc⟩ := h.head
  refine ⟨c, rest ++ behind, ?_, hc⟩
  rw [List.append_assoc, List.cons_append, skipSpace_of_opens hbefore hc]

/-- What stands behind a value with the blanks around it: the end, or what separates values. -/
def Separates (rest : List Char) : Prop := ∀ c ∈ rest.head?, c = ',' ∨ c = ']' ∨ c = '}'

/-- A comma and the closing marks separate. -/
theorem separates_of {c : Char} (h : c = ',' ∨ c = ']' ∨ c = '}') (rest : List Char) :
    Separates (c :: rest) := by
  rintro _ ⟨⟩
  exact h

/-- What separates values does not begin with a blank. -/
theorem Separates.noSpace {rest : List Char} (h : Separates rest) : Stops isSpace rest := by
  intro c hc
  rcases h c hc with rfl | rfl | rfl <;> decide

/-- What stands behind a bare value. -/
theorem Separates.ends {after rest : List Char} (hafter : IsOf isSpace after) (h : Separates rest) :
    Ends (after ++ rest) := by
  intro c hc
  cases after with
  | nil => exact .inr (h c hc)
  | cons a after =>
      obtain rfl : a = c := Option.some.inj hc
      exact .inl (hafter a List.mem_cons_self)

/-- The readers accept a phrase, with fuel for its characters. -/
def Reads (s : List Char) : Phrase → Prop
  | .value value => ∀ (fuel : ℕ) (rest : List Char), s.length ≤ fuel → Ends rest →
      readValue fuel (s ++ rest) = .ok (value, rest)
  | .slot value => ∀ (fuel : ℕ) (rest : List Char), s.length ≤ fuel → Separates rest →
      ∃ after, readValue fuel (skipSpace (s ++ rest)) = .ok (value, after) ∧
        skipSpace after = rest
  | .items items => ∀ (fuel : ℕ) (done : List Json) (rest : List Char), s.length < fuel →
      readItems fuel done (skipSpace (s ++ ']' :: rest)) = .ok (done.reverse ++ items, rest)
  | .member key value => ∀ (fuel : ℕ) (rest : List Char), s.length ≤ fuel → Separates rest →
      ∃ opened afterKey afterColon after, skipSpace (s ++ rest) = '"' :: opened ∧
        readText ('"' :: opened) none [] opened = .ok (key, afterKey) ∧
        skipSpace afterKey = ':' :: afterColon ∧
        readValue fuel (skipSpace afterColon) = .ok (value, after) ∧ skipSpace after = rest
  | .members members => ∀ (fuel : ℕ) (done : List (String × Json)) (rest : List Char),
      s.length < fuel →
      readMembers fuel done (skipSpace (s ++ '}' :: rest)) =
        .ok (members.foldl (fun table p => Table.put p.1 p.2 table) done, rest)

/-- Behind an item stands the end of the array, a comma and more, or a fault. -/
theorem readItems_of {fuel : ℕ} {s after : List Char} {value : Json}
    (hvalue : readValue fuel s = .ok (value, after)) (done : List Json) :
    readItems (fuel + 1) done s =
      match skipSpace after with
      | ']' :: rest => .ok ((value :: done).reverse, rest)
      | ',' :: rest => readItems fuel (value :: done) (skipSpace rest)
      | other => stop .comma other := by
  rw [readItems.eq_2, hvalue]
  rfl

/-- Behind a member stands the end of the object, a comma and more, or a fault. -/
theorem readMembers_of {fuel : ℕ} {opened afterKey afterColon after : List Char} {key : String}
    {value : Json} (hkey : readText ('"' :: opened) none [] opened = .ok (key, afterKey))
    (hcolon : skipSpace afterKey = ':' :: afterColon)
    (hvalue : readValue fuel (skipSpace afterColon) = .ok (value, after))
    (done : List (String × Json)) :
    readMembers (fuel + 1) done ('"' :: opened) =
      match skipSpace after with
      | '}' :: rest => .ok (Table.put key value done, rest)
      | ',' :: rest => readMembers fuel (Table.put key value done) (skipSpace rest)
      | other => stop .comma other := by
  rw [readMembers.eq_2, hkey]
  simp only [bind, Except.bind, hcolon]
  rw [hvalue]
  rfl

/-- A word is left to the reader of words. -/
theorem readValue_of_beginsWord {c : Char} (hc : beginsWord c = true) (fuel : ℕ)
    (rest : List Char) : readValue (fuel + 1) (c :: rest) = readWord (c :: rest) := by
  have hother {P : Prop} (d : Char) (hd : beginsWord d = false) {s t : List Char}
      (h : c :: s = d :: t) : P := by
    rw [(List.cons.inj h).1, hd] at hc
    cases hc
  rw [readValue.eq_5 _ _ (fun _ => hother '"' (by decide)) (fun _ => hother '{' (by decide))
    (fun _ => hother '[' (by decide))]

/-- Behind an opening bracket the items are read, if a value begins there. -/
theorem readValue_array {s rest : List Char} {c : Char} (hskip : skipSpace s = c :: rest)
    (hc : opens c = true) (fuel : ℕ) :
    readValue (fuel + 1) ('[' :: s) =
      readItems fuel [] (skipSpace s) >>= fun read => pure (.array read.1, read.2) := by
  rw [readValue.eq_4]
  split
  · next hclose =>
      rw [hskip] at hclose
      cases hclose
      exact absurd hc (by decide)
  · rfl

/-- Behind an opening brace the members are read, if a value could begin there. -/
theorem readValue_object {s rest : List Char} {c : Char} (hskip : skipSpace s = c :: rest)
    (hc : opens c = true) (fuel : ℕ) :
    readValue (fuel + 1) ('{' :: s) =
      readMembers fuel [] (skipSpace s) >>= fun read => pure (.object read.1, read.2) := by
  rw [readValue.eq_3]
  split
  · next hclose =>
      rw [hskip] at hclose
      cases hclose
      exact absurd hc (by decide)
  · rfl

/-- **The readers accept what is derived.** -/
theorem Spells.reads {s : List Char} {phrase : Phrase} (h : Spells s phrase) : Reads s phrase := by
  induction h with
  | word hword =>
      intro fuel rest hfuel hrest
      obtain ⟨c, more, rfl, hc⟩ := hword.head
      obtain ⟨fuel, rfl⟩ := Nat.exists_eq_add_one_of_ne_zero (Nat.ne_zero_of_lt hfuel)
      rw [List.cons_append, readValue_of_beginsWord hc]
      exact readWord_append hword hrest
  | @text body pieces hspelling =>
      intro fuel rest hfuel _
      obtain ⟨fuel, rfl⟩ := Nat.exists_eq_add_one_of_ne_zero (Nat.ne_zero_of_lt hfuel)
      rw [List.cons_append, List.append_assoc, List.singleton_append, readValue.eq_2,
        readText_append hspelling isHeld_none]
      rfl
  | @emptyArray s hspace =>
      intro fuel rest hfuel _
      obtain ⟨fuel, rfl⟩ := Nat.exists_eq_add_one_of_ne_zero (Nat.ne_zero_of_lt hfuel)
      have hskip : skipSpace (s ++ ']' :: rest) = ']' :: rest :=
        skipSpace_append hspace (by rintro _ ⟨⟩; decide)
      rw [List.cons_append, List.append_assoc, List.singleton_append, readValue.eq_4, hskip]
      rfl
  | @array s items hitems ih =>
      intro fuel rest hfuel _
      obtain ⟨fuel, rfl⟩ := Nat.exists_eq_add_one_of_ne_zero (Nat.ne_zero_of_lt hfuel)
      simp only [List.length_append, List.length_cons, List.length_nil] at hfuel
      have hread := ih fuel [] rest (by omega)
      obtain ⟨c, more, hskip, hc⟩ := hitems.skip (']' :: rest)
      rw [List.cons_append, List.append_assoc, List.singleton_append, readValue_array hskip hc,
        hread]
      rfl
  | @emptyObject s hspace =>
      intro fuel rest hfuel _
      obtain ⟨fuel, rfl⟩ := Nat.exists_eq_add_one_of_ne_zero (Nat.ne_zero_of_lt hfuel)
      have hskip : skipSpace (s ++ '}' :: rest) = '}' :: rest :=
        skipSpace_append hspace (by rintro _ ⟨⟩; decide)
      rw [List.cons_append, List.append_assoc, List.singleton_append, readValue.eq_3, hskip]
      rfl
  | @object s members table hmembers hgathers ih =>
      intro fuel rest hfuel _
      obtain ⟨fuel, rfl⟩ := Nat.exists_eq_add_one_of_ne_zero (Nat.ne_zero_of_lt hfuel)
      simp only [List.length_append, List.length_cons, List.length_nil] at hfuel
      have hread := ih fuel [] rest (by omega)
      obtain rfl := Table.gathers_iff.mp hgathers
      obtain ⟨c, more, hskip, hc⟩ := hmembers.skip ('}' :: rest)
      rw [List.cons_append, List.append_assoc, List.singleton_append, readValue_object hskip hc,
        hread]
      rfl
  | @slot before s after value hspace hvalue hafter ih =>
      intro fuel rest hfuel hrest
      obtain ⟨c, more, hs, hc⟩ := hvalue.head_value
      refine ⟨after ++ rest, ?_, skipSpace_append hafter hrest.noSpace⟩
      have hskip : skipSpace (before ++ (s ++ after) ++ rest) = s ++ (after ++ rest) := by
        rw [List.append_assoc, List.append_assoc, hs, List.cons_append,
          skipSpace_of_opens hspace hc]
      rw [hskip]
      refine ih fuel (after ++ rest) ?_ (hrest.ends hafter)
      simp only [List.length_append] at hfuel
      omega
  | item hvalue ih =>
      intro fuel done rest hfuel
      obtain ⟨fuel, rfl⟩ := Nat.exists_eq_add_one_of_ne_zero (Nat.ne_zero_of_lt hfuel)
      obtain ⟨after, hread, hafter⟩ := ih fuel (']' :: rest) (by omega) (separates_of (by decide) _)
      rw [readItems_of hread, hafter, ← List.reverse_cons]
      rfl
  | @moreItems s more value items hvalue hitems ih ihmore =>
      intro fuel done rest hfuel
      obtain ⟨fuel, rfl⟩ := Nat.exists_eq_add_one_of_ne_zero (Nat.ne_zero_of_lt hfuel)
      simp only [List.length_append, List.length_cons] at hfuel
      obtain ⟨after, hread, hafter⟩ :=
        ih fuel (',' :: (more ++ ']' :: rest)) (by omega) (separates_of (by decide) _)
      rw [List.append_assoc, List.cons_append, readItems_of hread, hafter]
      have hmore := ihmore fuel (value :: done) rest (by omega)
      rwa [List.reverse_cons, List.append_assoc, List.singleton_append] at hmore
  | @pair before body between s pieces value hbefore hspelling hbetween hvalue ih =>
      intro fuel rest hfuel hrest
      simp only [List.length_append, List.length_cons] at hfuel
      obtain ⟨after, hread, hafter⟩ := ih fuel rest (by omega) hrest
      refine ⟨body ++ '"' :: (between ++ ':' :: (s ++ rest)), between ++ ':' :: (s ++ rest),
        s ++ rest, after, ?_, ?_, ?_, hread, hafter⟩
      · rw [List.append_assoc, skipSpace_append hbefore]
        · simp
        · rintro _ ⟨⟩
          decide
      · exact readText_append hspelling isHeld_none _ [] _
      · refine skipSpace_append hbetween ?_
        rintro _ ⟨⟩
        decide
  | member hmember ih =>
      intro fuel done rest hfuel
      obtain ⟨fuel, rfl⟩ := Nat.exists_eq_add_one_of_ne_zero (Nat.ne_zero_of_lt hfuel)
      obtain ⟨opened, afterKey, afterColon, after, hopened, hkey, hcolon, hvalue, hafter⟩ :=
        ih fuel ('}' :: rest) (by omega) (separates_of (by decide) _)
      rw [hopened, readMembers_of hkey hcolon hvalue, hafter]
      rfl
  | @moreMembers s more key value members hmember hmembers ih ihmore =>
      intro fuel done rest hfuel
      obtain ⟨fuel, rfl⟩ := Nat.exists_eq_add_one_of_ne_zero (Nat.ne_zero_of_lt hfuel)
      simp only [List.length_append, List.length_cons] at hfuel
      obtain ⟨opened, afterKey, afterColon, after, hopened, hkey, hcolon, hvalue, hafter⟩ :=
        ih fuel (',' :: (more ++ '}' :: rest)) (by omega) (separates_of (by decide) _)
      rw [List.append_assoc, List.cons_append, hopened, readMembers_of hkey hcolon hvalue, hafter]
      exact ihmore fuel (Table.put key value done) rest (by omega)

/-! ### Whole texts -/

/-- What begins with blanks and a character that opens a value begins with no byte order mark. -/
theorem ne_mark_of_opens {before : List Char} (hbefore : IsOf isSpace before) {c : Char}
    (hc : opens c = true) (more rest : List Char) :
    before ++ c :: more ≠ Char.ofNat 0xfeff :: rest := by
  cases before with
  | nil =>
      intro heq
      rw [(List.cons.inj heq).1] at hc
      exact absurd hc (by decide)
  | cons a before =>
      intro heq
      have ha := hbefore a List.mem_cons_self
      rw [(List.cons.inj heq).1] at ha
      exact absurd ha (by decide)

/-- A text that the grammar derives begins with no byte order mark. -/
theorem Spells.not_mark {s : List Char} {phrase : Phrase} (h : Spells s phrase) (rest : List Char) :
    s ≠ Char.ofNat 0xfeff :: rest := by
  obtain ⟨before, c, more, rfl, hbefore, hc⟩ := h.head
  exact ne_mark_of_opens hbefore hc more rest

/-- A whole text has a value exactly if it spells it. -/
theorem readWhole_go_iff {s : List Char} {value : Json} :
    readWhole.go s = .ok value ↔ Spells s (.slot value) := by
  constructor
  · intro h
    obtain ⟨⟨result, after⟩, hread, h⟩ := bind_eq_ok_iff.mp h
    obtain ⟨before, hs, hbefore, -⟩ := skipSpace_sound s
    obtain ⟨front, hfront, hspells⟩ := (reads_sound _).value hread
    obtain ⟨between, hafter, hbetween, -⟩ := skipSpace_sound after
    dsimp only at h
    split at h
    · next hempty =>
        cases h
        rw [hempty, List.append_nil] at hafter
        rw [hfront, hafter] at hs
        rw [hs]
        exact .slot hbefore hspells hbetween
    · cases h
  · intro h
    have hreads : Reads s (.slot value) := h.reads
    obtain ⟨after, hread, hafter⟩ := hreads (2 * s.length + 2) [] (by omega) nofun
    rw [List.append_nil] at hread
    rw [readWhole.go, hread]
    dsimp only [bind, Except.bind]
    rw [hafter]
    rfl

/-- The look for a byte order mark matters to none but the texts that begin with one. -/
theorem readWhole_iff_go {s : List Char} {outcome : Except Stop Json}
    (houtcome : ∀ rest, outcome ≠ stop .byteOrderMark rest)
    (hmark : readWhole.go s = outcome → ∀ rest, s ≠ Char.ofNat 0xfeff :: rest) :
    readWhole s = outcome ↔ readWhole.go s = outcome := by
  cases s with
  | nil => rfl
  | cons c rest =>
      rw [readWhole]
      by_cases hc : c = Char.ofNat 0xfeff
      · rw [if_pos hc]
        refine iff_of_false (fun h => houtcome _ h.symm) fun h => hmark h rest ?_
        rw [hc]
      · rw [if_neg hc]

/-- **The reader accepts the grammar.** A text has a value if the grammar derives it, and then it
has the value with which it is derived. -/
theorem read_iff {text : String} {value : Json} :
    read text = .ok value ↔ Spells text.toList (.slot value) := by
  have hwhole : read text = .ok value ↔ readWhole text.toList = .ok value := by
    rw [read]
    constructor
    · intro h
      split at h
      · next hread =>
          rw [hread]
          cases h
          rfl
      · cases h
      · cases h
    · intro h
      rw [h]
  have hgo : readWhole text.toList = .ok value ↔ readWhole.go text.toList = .ok value :=
    readWhole_iff_go nofun fun h => (readWhole_go_iff.mp h).not_mark
  rw [hwhole, hgo, readWhole_go_iff]

end AlertRelay.Json

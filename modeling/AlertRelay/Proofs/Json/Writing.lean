import AlertRelay.Json.Writer
import AlertRelay.Proofs.Json.Reading

/-!
# Writing JSON Texts

What is written is spelled by the grammar, with the characters outside ASCII as escapes or as they
are.

A character that is written by its code is one unit, or two beyond the basic plane. Neither is
taken for half of another pair, whatever stands behind it: no character has the code of a
surrogate, and a pair is complete with its second half. So characters are spelled one by one
(`spellsChar_writeChar`), and a text is.

## Main results

* `Json.hexUnit?_hexDigits`: the digits of a unit give its code.
* `Json.spelling_writeText`: **a text is spelled by what is written for it**.
* `Json.Written.object`: an object is, if its values are and no key comes twice.
-/

namespace AlertRelay.Json

open AlertRelay.Number AlertRelay.Text

/-! ### Units -/

/-- A hexadecimal digit is read as its value. -/
theorem hexDigit?_digitChar : ∀ d < 16, hexDigit? (Nat.digitChar d) = some d := by decide

/-- A number below sixteen is one hexadecimal digit. -/
theorem hexDigits_one {n : ℕ} (h : n < 16) : hexDigits 1 n = [Nat.digitChar n] := by
  rw [hexDigits, Nat.toDigits_of_lt_base h]
  rfl

/-- The last of the digits stands for the remainder. -/
theorem hexDigits_succ {width : ℕ} (hwidth : 0 < width) (n : ℕ) :
    hexDigits (width + 1) n = hexDigits width (n / 16) ++ [Nat.digitChar (n % 16)] := by
  obtain hsmall | hlarge := Nat.lt_or_ge n 16
  · obtain ⟨width, rfl⟩ := Nat.exists_eq_add_one_of_ne_zero (Nat.ne_of_gt hwidth)
    have hzero : Nat.toDigits 16 0 = ['0'] := rfl
    rw [hexDigits, hexDigits, Nat.toDigits_of_lt_base hsmall, Nat.div_eq_of_lt hsmall,
      Nat.mod_eq_of_lt hsmall, hzero, List.length_singleton, List.length_singleton,
      Nat.add_sub_cancel, Nat.add_sub_cancel, List.replicate_succ']
  · rw [hexDigits, hexDigits, Nat.toDigits_of_base_le (by decide) hlarge, List.length_append,
      List.length_singleton, Nat.add_sub_add_right, List.append_assoc]

/-- **The digits of a unit give its code.** -/
theorem hexUnit?_hexDigits {unit : ℕ} (h : unit < 0x10000) :
    ∃ a b c d, hexDigits 4 unit = [a, b, c, d] ∧ hexUnit? a b c d = some unit := by
  have hfirst : unit / 16 / 16 / 16 < 16 := by omega
  refine ⟨Nat.digitChar (unit / 16 / 16 / 16), Nat.digitChar (unit / 16 / 16 % 16),
    Nat.digitChar (unit / 16 % 16), Nat.digitChar (unit % 16), ?_, ?_⟩
  · rw [hexDigits_succ (by decide), hexDigits_succ (by decide), hexDigits_succ (by decide),
      hexDigits_one hfirst]
    rfl
  · have hrest (n : ℕ) : hexDigit? (Nat.digitChar (n % 16)) = some (n % 16) :=
      hexDigit?_digitChar _ (Nat.mod_lt n (by decide))
    rw [hexUnit?, hexDigit?_digitChar _ hfirst, hrest, hrest, hrest]
    simp only [pure, bind, Option.bind_some]
    congr 1
    omega

/-- An escape by a code spells its unit. -/
theorem spelled_unitEscape {unit : ℕ} (h : unit < 0x10000) :
    (Piece.unit unit).Spelled (unitEscape unit) := by
  obtain ⟨a, b, c, d, hdigits, hunit⟩ := hexUnit?_hexDigits h
  rw [unitEscape, hdigits]
  exact .code hunit

/-! ### Characters -/

/-- What spells one piece is a spelling. -/
theorem Spelling.single {s : List Char} {piece : Piece} (h : piece.Spelled s) :
    Spelling s [piece] := by
  rw [← List.append_nil s]
  exact .cons h .nil

/-- Spellings stand one after the other. -/
theorem Spelling.append {s t : List Char} {pieces more : List Piece} (h : Spelling s pieces)
    (ht : Spelling t more) : Spelling (s ++ t) (pieces ++ more) := by
  induction h with
  | nil => exact ht
  | cons hpiece _ ih =>
      rw [List.append_assoc]
      exact .cons hpiece ih

/-- What spells a character, whatever is spelled behind it. -/
structure SpellsChar (s : List Char) (c : Char) (pieces : List Piece) : Prop where
  spelling : Spelling s pieces
  joined : ∀ more, joined (pieces ++ more) = c :: joined more

/-- A character that stands for itself is spelled by itself. -/
theorem SpellsChar.char {s : List Char} {c : Char} (h : (Piece.char c).Spelled s) :
    SpellsChar s c [.char c] := ⟨.single h, fun _ => rfl⟩

/-- The code of a character is no surrogate. -/
theorem toNat_range (c : Char) : c.toNat < 0xd800 ∨ 0xdfff < c.toNat ∧ c.toNat < 0x110000 := c.valid

/-- A character is spelled by the escape of its code. -/
theorem spellsChar_codeEscape (c : Char) : ∃ pieces, SpellsChar (codeEscape c) c pieces := by
  have hrange := toNat_range c
  rw [codeEscape]
  split
  · next hbasic =>
      have hhigh : isHighSurrogate c.toNat = false := by
        rw [isHighSurrogate, Bool.and_eq_false_iff, decide_eq_false_iff_not,
          decide_eq_false_iff_not]
        omega
      have hlow : isLowSurrogate c.toNat = false := by
        rw [isLowSurrogate, Bool.and_eq_false_iff, decide_eq_false_iff_not,
          decide_eq_false_iff_not]
        omega
      have hchar : unitChar c.toNat = c := by
        rw [unitChar, hhigh, hlow, if_neg (by decide), Char.ofNat_toNat]
      refine ⟨[.unit c.toNat], .single (spelled_unitEscape hbasic), fun more => ?_⟩
      rw [List.singleton_append, joined_of_not_high hhigh, hchar]
  · next hbeyond =>
      have hhigh : isHighSurrogate (0xd800 + (c.toNat - 0x10000) / 0x400) = true := by
        rw [isHighSurrogate, Bool.and_eq_true, decide_eq_true_eq, decide_eq_true_eq]
        omega
      have hlow : isLowSurrogate (0xdc00 + (c.toNat - 0x10000) % 0x400) = true := by
        rw [isLowSurrogate, Bool.and_eq_true, decide_eq_true_eq, decide_eq_true_eq]
        omega
      have hchar : joinSurrogates (0xd800 + (c.toNat - 0x10000) / 0x400)
          (0xdc00 + (c.toNat - 0x10000) % 0x400) = c := by
        have hcode : 0x10000 + (0xd800 + (c.toNat - 0x10000) / 0x400 - 0xd800) * 0x400 +
            (0xdc00 + (c.toNat - 0x10000) % 0x400 - 0xdc00) = c.toNat := by
          omega
        rw [joinSurrogates, hcode, Char.ofNat_toNat]
      refine ⟨[.unit _, .unit _], .append (.single (spelled_unitEscape ?_))
        (.single (spelled_unitEscape ?_)), fun more => ?_⟩
      · omega
      · omega
      · rw [List.cons_append, List.singleton_append, joined, hhigh, hlow, hchar]
        rfl

/-- A character is spelled by what is written for it. -/
theorem spellsChar_writeChar (escaping : Escaping) (c : Char) :
    ∃ pieces, SpellsChar (writeChar escaping c) c pieces := by
  rw [writeChar.eq_def]
  split
  · exact ⟨_, .char (.short rfl)⟩
  · exact ⟨_, .char (.short rfl)⟩
  · exact ⟨_, .char (.short rfl)⟩
  · exact ⟨_, .char (.short rfl)⟩
  · exact ⟨_, .char (.short rfl)⟩
  · exact ⟨_, .char (.short rfl)⟩
  · exact ⟨_, .char (.short rfl)⟩
  · next hquote hbackslash _ _ _ _ _ =>
      split
      · exact spellsChar_codeEscape c
      · next hplain =>
          have hcontrol : 0x20 ≤ c.toNat := Nat.le_of_not_lt fun h => hplain (.inl h)
          exact ⟨_, .char (.plain hquote hbackslash hcontrol)⟩

/-- What is written for characters spells them. -/
theorem spelling_flatMap_writeChar (escaping : Escaping) (s : List Char) :
    ∃ pieces, Spelling (s.flatMap (writeChar escaping)) pieces ∧ joined pieces = s := by
  induction s with
  | nil => exact ⟨[], .nil, rfl⟩
  | cons c s ih =>
      obtain ⟨pieces, hchar⟩ := spellsChar_writeChar escaping c
      obtain ⟨more, hmore, hjoined⟩ := ih
      refine ⟨pieces ++ more, ?_, ?_⟩
      · rw [List.flatMap_cons]
        exact hchar.spelling.append hmore
      · rw [hchar.joined, hjoined]

/-- **A text is spelled by what is written for it**, between its quotes. -/
theorem spelling_writeText (escaping : Escaping) (s : String) :
    ∃ body pieces, (writeText escaping s).toList = '"' :: (body ++ ['"']) ∧
      Spelling body pieces ∧ s = .ofList (joined pieces) := by
  obtain ⟨pieces, hspelling, hjoined⟩ := spelling_flatMap_writeChar escaping s.toList
  refine ⟨_, pieces, ?_, hspelling, ?_⟩
  · rw [writeText, String.toList_ofList, List.cons_append]
  · rw [hjoined, String.ofList_toList]

/-- A pair of units stands for a character beyond the basic plane. -/
example : writeText .ascii "\t\x7fé😀" = "\"\\t\\u007f\\u00e9\\ud83d\\ude00\"" := by
  decide +kernel

/-! ### Values -/

/-- A value that is spelled by what is written for it. -/
def Written (escaping : Escaping) (value : Json) : Prop :=
  Spells (write escaping value).toList (.value value)

/-- A text that is written spells itself. -/
theorem Written.string (escaping : Escaping) (s : String) : Written escaping (.string s) := by
  obtain ⟨body, pieces, hbody, hspelling, rfl⟩ := spelling_writeText escaping s
  rw [Written, write, hbody]
  exact .text hspelling

/-- What is written for a key and its value, with the blank behind the colon. -/
theorem Written.member {escaping : Escaping} {value : Json} (h : Written escaping value)
    (key : String) :
    Spells (writeText escaping key ++ ": " ++ write escaping value).toList (.member key value) := by
  obtain ⟨body, pieces, hbody, hspelling, rfl⟩ := spelling_writeText escaping key
  have hblank : IsOf isSpace [' '] := by decide
  have hslot : Spells ([' '] ++ ((write escaping value).toList ++ [])) (.slot value) :=
    .slot hblank h isOf_nil
  have hmember := Spells.pair isOf_nil hspelling isOf_nil hslot
  have htext : (writeText escaping (.ofList (joined pieces)) ++ ": " ++
      write escaping value).toList =
        [] ++ '"' :: (body ++ '"' :: ([] ++ ':' :: ([' '] ++ ((write escaping value).toList ++ []))))
      := by
    rw [String.toList_append, String.toList_append, hbody]
    simp
  rw [htext]
  exact hmember

/-- What is written for members, with the blanks behind the commas. -/
theorem spells_writeMembers {escaping : Escaping} {members : List (String × Json)}
    (hne : members ≠ []) (hvalues : ∀ member ∈ members, Written escaping member.2) :
    Spells (writeMembers escaping members).toList (.members members) := by
  induction members with
  | nil => exact absurd rfl hne
  | cons member members ih =>
      obtain ⟨key, value⟩ := member
      obtain ⟨hvalue, hvalues⟩ := List.forall_mem_cons.mp hvalues
      have hfirst := hvalue.member key
      cases members with
      | nil => exact .member hfirst
      | cons next members =>
          have hblank : IsOf isSpace [' '] := by decide
          have hrest := (ih nofun hvalues).indent nofun hblank
          have hmembers := Spells.moreMembers hfirst hrest
          have htext : (writeMembers escaping ((key, value) :: next :: members)).toList =
              (writeText escaping key ++ ": " ++ write escaping value).toList ++
                ',' :: ([' '] ++ (writeMembers escaping (next :: members)).toList) := by
            rw [writeMembers, String.toList_append, String.toList_append]
            · simp
            · nofun
          rw [htext]
          exact hmembers

/-- **An object is spelled by what is written for it**, if its values are and no key comes twice. -/
theorem Written.object {escaping : Escaping} {members : List (String × Json)}
    (hkeys : (members.map Prod.fst).Nodup)
    (hvalues : ∀ member ∈ members, Written escaping member.2) :
    Written escaping (.object members) := by
  have htext : (write escaping (.object members)).toList =
      '{' :: ((writeMembers escaping members).toList ++ ['}']) := by
    rw [write, String.toList_append, String.toList_append]
    rfl
  rw [Written, htext]
  cases members with
  | nil => exact .emptyObject isOf_nil
  | cons member members =>
      exact .object (spells_writeMembers nofun hvalues)
        (Table.gathers_iff.mpr (Table.ofPairs_of_nodup hkeys).symm)

end AlertRelay.Json

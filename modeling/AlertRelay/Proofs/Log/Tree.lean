import AlertRelay.Log.Console
import Mathlib.Data.List.Infix
import Mathlib.Order.Basic

/-!
# The Tree of Loggers

The names of loggers describe a tree: `a.b.c` stands below `a.b` and `a`. By the tree a logger
goes by the level of the nearest logger with a level among itself and its ancestors, and by the
root's level when none has one (`GoesBy`). That says nothing about which loggers there are.

The console goes by the loggers that there are, and passes over a dot right before one that it has
tried. For names without two dots in a row this makes no difference, as long as every logger with
a level exists (`effectiveLevel_goesBy`). For other names an ancestor may be missed, and the level
inherited is then another ancestor's or the root's (`effectiveLevel_cases`).

## Main results

* `inherits_cons`: what is inherited, one character of the name at a time.
* `existsUnique_goesBy`: every logger goes by exactly one level.
* `Console.effectiveLevel_goesBy`: **the console follows the tree on regular names.**
* `Console.effectiveLevel_cases`: where the level comes from for any name.
-/

namespace AlertRelay.Log

/-- A logger stands below another one: its name is the other's, a dot, and more. -/
def Below (name ancestor : String) : Prop := ∃ rest, name = ancestor ++ "." ++ rest

/-- A name without two dots in a row. -/
def Regular (name : String) : Prop := ¬∃ front rest, name = front ++ ".." ++ rest

variable {own : String → Int} {root level other : Int} {name ancestor : String}
  {rev rs : List Char} {ch : Char}

/-- The nearest logger with a level among a logger and its ancestors. -/
structure Governs (own : String → Int) (ancestor name : String) : Prop where
  reaches : ancestor = name ∨ Below name ancestor
  level : own ancestor ≠ 0
  nearest : ∀ other, other = name ∨ Below name other → own other ≠ 0 →
    other.length ≤ ancestor.length

/-- The level that a logger goes by in a tree with some own levels (0 for none). -/
def GoesBy (own : String → Int) (root : Int) (name : String) (level : Int) : Prop :=
  (∃ ancestor, Governs own ancestor name ∧ level = own ancestor) ∨
    ((∀ ancestor, ancestor = name ∨ Below name ancestor → own ancestor = 0) ∧ level = root)

/-! ### Names in reverse -/

/-- The logger whose name is given in reverse. -/
def reversed (rev : List Char) : String := String.ofList rev.reverse

/-- A name that is reversed twice is the name. -/
@[simp]
theorem reversed_reverse (name : String) : reversed name.toList.reverse = name := by
  simp [reversed]

/-- The characters of a name that is given in reverse. -/
@[simp]
theorem toList_reversed (rev : List Char) : (reversed rev).toList = rev.reverse := by
  simp [reversed]

/-- Ancestors, in reverse, are what stands behind a dot. -/
theorem below_iff :
    Below name ancestor ↔ '.' :: ancestor.toList.reverse <:+ name.toList.reverse := by
  constructor
  · rintro ⟨rest, rfl⟩
    exact ⟨rest.toList.reverse, by simp⟩
  · rintro ⟨front, hname⟩
    refine ⟨reversed front, String.toList_inj.mp ?_⟩
    rw [← List.reverse_inj, ← hname]
    simp

/-- Two dots in a row are found in reverse as well. -/
theorem regular_iff : Regular name ↔ ¬['.', '.'] <:+: name.toList.reverse := by
  refine not_congr ⟨?_, ?_⟩
  · rintro ⟨front, rest, rfl⟩
    exact ⟨rest.toList.reverse, front.toList.reverse, by simp⟩
  · rintro ⟨back, front, hname⟩
    refine ⟨reversed front, reversed back, String.toList_inj.mp ?_⟩
    rw [← List.reverse_inj, ← hname]
    simp

/-! ### What is inherited -/

/-- The level that a logger inherits by the tree, its name given in reverse. -/
def Inherits (own : String → Int) (root : Int) (rs : List Char) (level : Int) : Prop :=
  (∃ rev, '.' :: rev <:+ rs ∧ own (reversed rev) ≠ 0 ∧
      (∀ other, '.' :: other <:+ rs → own (reversed other) ≠ 0 → other.length ≤ rev.length) ∧
      level = own (reversed rev)) ∨
    ((∀ rev, '.' :: rev <:+ rs → own (reversed rev) = 0) ∧ level = root)

/-- An ancestor has a shorter name. -/
theorem Below.length_lt (h : Below name ancestor) : ancestor.length < name.length := by
  obtain ⟨rest, rfl⟩ := h
  simp only [String.length_append]
  have hdot : ".".length = 1 := rfl
  omega

/-- A logger goes by its own level, or else by the one that it inherits. -/
theorem goesBy_iff :
    GoesBy own root name level ↔
      if own name ≠ 0 then level = own name else Inherits own root name.toList.reverse level := by
  split
  case isTrue hown =>
    constructor
    · rintro (⟨ancestor, hgoverns, rfl⟩ | ⟨hnone, -⟩)
      · obtain rfl | hbelow := hgoverns.reaches
        · rfl
        · exact absurd (hgoverns.nearest name (.inl rfl) hown) (not_le.mpr hbelow.length_lt)
      · exact absurd (hnone name (.inl rfl)) hown
    · rintro rfl
      refine .inl ⟨name, ⟨.inl rfl, hown, ?_⟩, rfl⟩
      rintro other (rfl | hbelow) -
      · exact le_rfl
      · exact hbelow.length_lt.le
  case isFalse hown =>
    have hself : own name = 0 := not_not.mp hown
    constructor
    · rintro (⟨ancestor, hgoverns, rfl⟩ | ⟨hnone, rfl⟩)
      · obtain rfl | hbelow := hgoverns.reaches
        · exact absurd hself hgoverns.level
        · refine .inl ⟨ancestor.toList.reverse, below_iff.mp hbelow, ?_, ?_, ?_⟩
          · simpa using hgoverns.level
          · intro other hother hlevel
            have := hgoverns.nearest (reversed other) (.inr (below_iff.mpr (by simpa))) hlevel
            simpa [← String.length_toList] using this
          · simp
      · exact .inr ⟨fun rev hrev => hnone _ (.inr (below_iff.mpr (by simpa))), rfl⟩
    · rintro (⟨rev, hrev, hlevel, hnearest, rfl⟩ | ⟨hnone, rfl⟩)
      · refine .inl ⟨reversed rev, ⟨.inr (below_iff.mpr (by simpa)), hlevel, ?_⟩, rfl⟩
        rintro other (rfl | hbelow) hother
        · exact absurd hself hother
        · have := hnearest _ (below_iff.mp hbelow) (by simpa)
          simpa [← String.length_toList] using this
      · refine .inr ⟨?_, rfl⟩
        rintro ancestor (rfl | hbelow)
        · exact hself
        · simpa using hnone _ (below_iff.mp hbelow)

/-- The tree, one character at a time: what stands behind a dot hands its level on if it has one,
and otherwise nothing is inherited but what is inherited there. -/
theorem inherits_cons :
    Inherits own root (ch :: rs) level ↔
      if ch = '.' ∧ own (reversed rs) ≠ 0 then level = own (reversed rs)
      else Inherits own root rs level := by
  have hbehind : ∀ rev, '.' :: rev <:+ ch :: rs ↔ ch = '.' ∧ rev = rs ∨ '.' :: rev <:+ rs := by
    intro rev
    rw [List.suffix_cons_iff, List.cons.injEq, eq_comm (a := '.')]
  split
  case isTrue hhere =>
    obtain ⟨rfl, hlevel⟩ := hhere
    constructor
    · rintro (⟨rev, hrev, -, hnearest, rfl⟩ | ⟨hnone, -⟩)
      · have hlonger := hnearest rs ((hbehind rs).mpr (.inl ⟨rfl, rfl⟩)) hlevel
        obtain ⟨-, rfl⟩ | hrev := (hbehind rev).mp hrev
        · rfl
        · have hshorter := hrev.length_le
          rw [List.length_cons] at hshorter
          omega
      · exact absurd (hnone rs ((hbehind rs).mpr (.inl ⟨rfl, rfl⟩))) hlevel
    · rintro rfl
      refine .inl ⟨rs, (hbehind rs).mpr (.inl ⟨rfl, rfl⟩), hlevel, fun other hother _ => ?_, rfl⟩
      obtain ⟨-, rfl⟩ | hother := (hbehind other).mp hother
      · exact le_rfl
      · have hshorter := hother.length_le
        rw [List.length_cons] at hshorter
        omega
  case isFalse hhere =>
    -- the first character adds no logger with a level
    have hsame : ∀ rev, own (reversed rev) ≠ 0 → ('.' :: rev <:+ ch :: rs ↔ '.' :: rev <:+ rs) := by
      intro rev hrev
      rw [hbehind, or_iff_right]
      rintro ⟨hdot, rfl⟩
      exact hhere ⟨hdot, hrev⟩
    refine or_congr (exists_congr fun rev => ?_) (and_congr_left' (forall_congr' fun rev => ?_))
    · constructor
      · rintro ⟨hrev, hlevel, hnearest, rfl⟩
        exact ⟨(hsame rev hlevel).mp hrev, hlevel,
          fun other hother h => hnearest other ((hsame other h).mpr hother) h, rfl⟩
      · rintro ⟨hrev, hlevel, hnearest, rfl⟩
        exact ⟨(hsame rev hlevel).mpr hrev, hlevel,
          fun other hother h => hnearest other ((hsame other h).mp hother) h, rfl⟩
    · by_cases hlevel : own (reversed rev) = 0
      · simp [hlevel]
      · rw [hsame rev hlevel]

/-- A logger without ancestors inherits from the root. -/
theorem inherits_nil : Inherits own root [] level ↔ level = root := by
  simp [Inherits]

/-- Exactly one level is inherited. -/
theorem existsUnique_inherits (own : String → Int) (root : Int) (rs : List Char) :
    ∃! level, Inherits own root rs level := by
  induction rs with
  | nil => exact ⟨root, inherits_nil.mpr rfl, fun _ => inherits_nil.mp⟩
  | cons ch rs ih =>
    simp only [inherits_cons]
    split
    case isTrue => exact ⟨_, rfl, fun _ h => h⟩
    case isFalse => exact ih

/-- Every logger goes by exactly one level. -/
theorem existsUnique_goesBy (own : String → Int) (root : Int) (name : String) :
    ∃! level, GoesBy own root name level := by
  simp only [goesBy_iff]
  split
  case isTrue => exact ⟨_, rfl, fun _ h => h⟩
  case isFalse => exact existsUnique_inherits own root _

/-- A logger that goes by a level other than the root's has it from itself or an ancestor; where
all levels are one, it is that one. -/
theorem goesBy_of_reaches {shared : Int} (hshared : ∀ name, own name ≠ 0 → own name = shared)
    (hreaches : ancestor = name ∨ Below name ancestor) (hlevel : own ancestor ≠ 0) :
    GoesBy own root name shared := by
  obtain ⟨level, ⟨governor, hgoverns, hgov⟩ | ⟨hnone, -⟩, -⟩ := existsUnique_goesBy own root name
  · exact .inl ⟨governor, hgoverns, (hshared governor hgoverns.level).symm⟩
  · exact absurd (hnone ancestor hreaches) hlevel

/-! ### The levels of the console -/

namespace Console

variable {c : Console}

/-- The loggers with a level of their own are the two that are set up. -/
theorem eq_of_ownLevel_ne_zero (h : c.ownLevel name ≠ 0) :
    name = connectionLogger ∨ name = transportLogger := by
  contrapose! h
  rw [ownLevel, if_neg h.1, if_neg h.2]

/-- The empty name has no level of its own. -/
theorem ownLevel_empty (c : Console) : c.ownLevel "" = 0 :=
  not_not.mp fun h => absurd (eq_of_ownLevel_ne_zero h) (by decide)

/-- On a name without two dots in a row, what the console inherits is what the tree says. -/
theorem inheritedLevel_inherits (hknown : ∀ name, c.ownLevel name ≠ 0 → name ∈ c.loggers)
    {rs : List Char} (hregular : ¬['.', '.'] <:+: rs) :
    Inherits c.ownLevel c.root rs (c.inheritedLevel rs) := by
  fun_induction inheritedLevel c rs with
  | case1 => exact inherits_nil.mpr rfl
  | case2 last rest ancestor hexists hlevel =>
    rw [inherits_cons, if_pos ⟨rfl, hlevel⟩]
    rfl
  | case3 last rest ancestor hexists hlevel ih =>
    rw [inherits_cons, if_neg fun h => hlevel h.2]
    exact ih fun h => hregular (h.trans (List.suffix_cons _ _).isInfix)
  | case4 last rest ancestor hexists ih =>
    have hlevel : c.ownLevel ancestor = 0 := by
      by_contra h
      exact hexists (hknown _ h)
    have hlast : last ≠ '.' := by
      rintro rfl
      exact hregular ⟨[], rest, rfl⟩
    rw [inherits_cons, if_neg fun h => h.2 hlevel, inherits_cons, if_neg fun h => hlast h.1]
    have hsuffix : rest <:+ '.' :: last :: rest := ⟨['.', last], rfl⟩
    exact ih fun h => hregular (h.trans hsuffix.isInfix)
  | case5 ch rest hch ih =>
    rw [inherits_cons, if_neg]
    · exact ih fun h => hregular (h.trans (List.suffix_cons _ _).isInfix)
    · rintro ⟨hdot, hlevel⟩
      cases rest with
      | nil => exact hlevel (ownLevel_empty c)
      | cons last rest => exact hch last rest hdot rfl

/-- **On a name without two dots in a row the console goes by the tree**, whichever loggers there
are beside those with a level. -/
theorem effectiveLevel_goesBy (hknown : ∀ name, c.ownLevel name ≠ 0 → name ∈ c.loggers)
    (hregular : Regular name) : GoesBy c.ownLevel c.root name (c.effectiveLevel name) := by
  rw [goesBy_iff, effectiveLevel]
  split
  case isTrue => rfl
  case isFalse => exact inheritedLevel_inherits hknown (regular_iff.mp hregular)

/-- What a logger inherits is the root's level, or that of an ancestor with a level. -/
theorem inheritedLevel_cases (c : Console) (rs : List Char) :
    c.inheritedLevel rs = c.root ∨
      ∃ rev, '.' :: rev <:+ rs ∧ c.ownLevel (reversed rev) ≠ 0 ∧
        c.inheritedLevel rs = c.ownLevel (reversed rev) := by
  -- what holds behind some characters holds with them
  have hlonger : ∀ (front : List Char) {rs rs' : List Char}, rs = front ++ rs' →
      (∃ rev, '.' :: rev <:+ rs' ∧ c.ownLevel (reversed rev) ≠ 0 ∧
        c.inheritedLevel rs' = c.ownLevel (reversed rev)) →
      ∃ rev, '.' :: rev <:+ rs ∧ c.ownLevel (reversed rev) ≠ 0 ∧
        c.inheritedLevel rs' = c.ownLevel (reversed rev) := by
    rintro front rs rs' rfl ⟨rev, hrev, hlevel⟩
    exact ⟨rev, hrev.trans (List.suffix_append _ _), hlevel⟩
  fun_induction inheritedLevel c rs with
  | case1 => exact .inl rfl
  | case2 last rest ancestor hexists hlevel =>
    exact .inr ⟨last :: rest, List.suffix_rfl, hlevel, rfl⟩
  | case3 last rest ancestor hexists hlevel ih =>
    exact ih.imp_right (hlonger ['.'] rfl)
  | case4 last rest ancestor hexists ih =>
    exact ih.imp_right (hlonger ['.', last] rfl)
  | case5 ch rest hch ih => exact ih.imp_right (hlonger [ch] rfl)

/-- **Where the level of any logger comes from**: the root, or itself or an ancestor. -/
theorem effectiveLevel_cases (c : Console) (name : String) :
    c.effectiveLevel name = c.root ∨
      ∃ ancestor, (ancestor = name ∨ Below name ancestor) ∧ c.ownLevel ancestor ≠ 0 ∧
        c.effectiveLevel name = c.ownLevel ancestor := by
  rw [effectiveLevel]
  split
  case isTrue hown => exact .inr ⟨name, .inl rfl, hown, rfl⟩
  case isFalse hown =>
    refine (inheritedLevel_cases c _).imp_right ?_
    rintro ⟨rev, hrev, hlevel, heq⟩
    exact ⟨reversed rev, .inr (below_iff.mpr (by simpa using hrev)), hlevel, heq⟩

end Console

end AlertRelay.Log

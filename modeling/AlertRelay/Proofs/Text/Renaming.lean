import AlertRelay.Proofs.Text.Substitution

/-!
# Renaming Placeholders

Where one placeholder replaces another, the literal parts of a text stay and only the marks
between them are spelled differently. An occurrence of the old placeholder in the result would
have to begin with an opening bracket. One that begins in a literal part lies within it, since the
mark behind it opens with a bracket of its own; and the new placeholder has no other bracket that
opens than its first character, at which no second placeholder begins. So the old placeholder is
gone.

A text without the new placeholder has none in its literal parts. The occurrences of the new one in
the result are then those that came of the renaming, and renaming them back restores the text.

## Main results

* `Placeholder.occursIn_append_iff`: no placeholder occurs across the beginning of another one.
* `replace_text_cancel`: **a renaming can be undone**.
* `not_occursIn_replace_text`: a placeholder that was renamed does not occur any more.
-/

namespace AlertRelay.Text

/-! ### Where a placeholder occurs -/

namespace Placeholder

variable {p q : Placeholder}

/-- A placeholder occurs in a text. -/
def OccursIn (p : Placeholder) (s : List Char) : Prop := p.spelling <:+: s

instance (p : Placeholder) (s : List Char) : Decidable (p.OccursIn s) :=
  inferInstanceAs (Decidable (p.spelling <:+: s))

/-- A placeholder occurs at the start of a text or behind its first character. -/
theorem occursIn_cons_iff {c : Char} {s : List Char} :
    p.OccursIn (c :: s) ↔ p.spelling <+: c :: s ∨ p.OccursIn s := List.infix_cons_iff

/-- An occurrence does not reach from one text over an opening bracket into the next one. -/
theorem occursIn_append_of_opens {text s : List Char} (hs : Opens s) :
    p.OccursIn (text ++ s) ↔ p.OccursIn text ∨ p.OccursIn s := by
  constructor
  · intro h
    induction text with
    | nil => exact .inr h
    | cons c text ih =>
        obtain hstarts | hlater := occursIn_cons_iff.mp h
        · left
          by_contra hnone
          exact not_prefix_append (List.cons_ne_nil c text) hs hnone hstarts
        · exact (ih hlater).imp_left List.infix_cons
  · rintro (h | h)
    · exact h.trans (List.prefix_append text s).isInfix
    · exact h.trans (List.suffix_append text s).isInfix

/-- No placeholder begins in a text without an opening bracket. -/
theorem occursIn_append_of_notMem {text s : List Char} (htext : '[' ∉ text) :
    p.OccursIn (text ++ s) ↔ p.OccursIn s := by
  induction text with
  | nil => rfl
  | cons c text ih =>
      obtain ⟨hc, htail⟩ : '[' ≠ c ∧ '[' ∉ text := by simpa using htext
      have hstarts : ¬p.spelling <+: c :: (text ++ s) := fun h => hc (List.cons_prefix_cons.mp h).1
      rw [List.cons_append, occursIn_cons_iff, ih htail, or_iff_right hstarts]

/-- No placeholder begins in another one. -/
theorem occursIn_spelling_append (hne : p ≠ q) {s : List Char} :
    p.OccursIn (q.spelling ++ s) ↔ p.OccursIn s := by
  have hcons : q.spelling ++ s = '[' :: ((q.name ++ [']']) ++ s) := rfl
  have hstarts : ¬p.spelling <+: q.spelling ++ s := fun h =>
    hne (eq_of_starts h (List.prefix_append q.spelling s))
  rw [hcons] at hstarts ⊢
  rw [occursIn_cons_iff, or_iff_right hstarts, occursIn_append_of_notMem q.opening_notMem_tail]

/-- **No placeholder occurs across another one**: an occurrence stands before the other placeholder
or behind it. -/
theorem occursIn_append_iff (hne : p ≠ q) {text s : List Char} :
    p.OccursIn (text ++ (q.spelling ++ s)) ↔ p.OccursIn text ∨ p.OccursIn s := by
  have hopens : Opens (q.spelling ++ s) := by simp [Opens, spelling]
  rw [occursIn_append_of_opens hopens, occursIn_spelling_append hne]

end Placeholder

/-! ### Segments around one placeholder -/

/-- The vocabulary of one placeholder. -/
def Vocabulary.single (p : Placeholder) : Vocabulary Unit where
  marks := [()]
  complete := List.mem_singleton_self
  placeholder _ := p
  placeholder_injective := Function.injective_of_subsingleton _

namespace Segments

/-- The segments with one text for every mark. -/
def spell (text : List Char) (parts : Segments Unit) : List Char := parts.fill fun _ => text

/-- The texts between the marks are found in any spelling. -/
theorem infix_spell {parts : Segments Unit} {text : List Char} (h : text ∈ parts.literals)
    (new : List Char) : text <:+: parts.spell new := by
  induction parts with
  | last text' => exact List.mem_singleton.mp h ▸ List.infix_refl _
  | mark front m rest ih =>
      obtain rfl | hrest := List.mem_cons.mp h
      · exact (List.prefix_append _ _).isInfix
      · refine (ih hrest).trans (List.IsSuffix.isInfix ?_)
        exact (List.suffix_append _ _).trans (List.suffix_append _ _)

/-- Another placeholder occurs between the marks only. -/
theorem occursIn_spell_iff {p q : Placeholder} (hne : p ≠ q) {parts : Segments Unit} :
    p.OccursIn (parts.spell q.spelling) ↔ ∃ text ∈ parts.literals, p.OccursIn text := by
  induction parts with
  | last text => simp [spell, fill, literals]
  | mark text m rest ih =>
      rw [spell, fill, ← spell, Placeholder.occursIn_append_iff hne, ih, literals]
      simp

end Segments

/-- Replacing a placeholder spells the marks between its occurrences differently. -/
theorem replaceChars_spell {p : Placeholder} {parts : Segments Unit}
    (h : ∀ text ∈ parts.literals, ¬p.OccursIn text) (new : List Char) :
    replaceChars p.spelling new (parts.spell p.spelling) = parts.spell new :=
  replaceChars_fill (.single p) (fun text ht _ => h text ht) () new

/-- A text in segments around a placeholder. -/
theorem exists_spell (p : Placeholder) (s : List Char) :
    ∃ parts : Segments Unit, parts.spell p.spelling = s ∧
      ∀ text ∈ parts.literals, ¬p.OccursIn text :=
  ⟨(Vocabulary.single p).split s, (Vocabulary.single p).fill_split s, fun text ht =>
    (Vocabulary.single p).proper_split s text ht ()⟩

/-! ### Renaming -/

/-- A renaming to a placeholder that a text does not have can be undone. -/
theorem replaceChars_cancel {p q : Placeholder} {s : List Char} (hq : ¬q.OccursIn s) :
    replaceChars q.spelling p.spelling (replaceChars p.spelling q.spelling s) = s := by
  obtain ⟨parts, rfl, hp⟩ := exists_spell p s
  have hfresh : ∀ text ∈ parts.literals, ¬q.OccursIn text := fun text ht h =>
    hq (h.trans (Segments.infix_spell ht p.spelling))
  rw [replaceChars_spell hp, replaceChars_spell hfresh]

/-- A placeholder that another one has replaced does not occur any more. -/
theorem not_occursIn_replaceChars {p q : Placeholder} (hne : p ≠ q) (s : List Char) :
    ¬p.OccursIn (replaceChars p.spelling q.spelling s) := by
  obtain ⟨parts, rfl, hp⟩ := exists_spell p s
  rw [replaceChars_spell hp, Segments.occursIn_spell_iff hne]
  rintro ⟨text, ht, h⟩
  exact hp text ht h

/-- Renaming a placeholder works on the characters of a text. -/
theorem toList_replace_text (p q : Placeholder) (s : String) :
    (replace p.text q.text s).toList = replaceChars p.spelling q.spelling s.toList := by
  simp only [replace, Placeholder.text, String.toList_ofList]

/-- **A renaming can be undone**, if the text did not have the new placeholder. -/
theorem replace_text_cancel {p q : Placeholder} {s : String} (hq : ¬q.OccursIn s.toList) :
    replace q.text p.text (replace p.text q.text s) = s := by
  rw [← String.toList_inj, toList_replace_text, toList_replace_text, replaceChars_cancel hq]

/-- After it is renamed to another one, a placeholder does not occur any more. -/
theorem not_occursIn_replace_text {p q : Placeholder} (hne : p ≠ q) (s : String) :
    ¬p.OccursIn (replace p.text q.text s).toList := by
  rw [toList_replace_text]
  exact not_occursIn_replaceChars hne s.toList

end AlertRelay.Text

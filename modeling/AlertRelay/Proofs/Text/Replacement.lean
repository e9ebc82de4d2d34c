import AlertRelay.Proofs.Text.Segments
import AlertRelay.Text.Replace

/-!
# Replacing Placeholders

Replacement scans a text from the left and looks at characters only. Where the old text is a
placeholder, the scan meets exactly its occurrences among the segments of the text: it passes
over literal parts and over the other placeholders, and what it inserts is not looked at
again.

## Main results

* `replaceChars_fill`: replacing a mark fills that mark and leaves every other one as it is.
* `replaceChars_eq_fill_split`: the same for the segments of a text.
* `Vocabulary.split_replaceChars`: in a clean text, replacing a mark by a clean text puts the
  segments of the one for the mark in the other.
-/

namespace AlertRelay.Text

/-! ### One step of the scan -/

/-- A placeholder is not empty, so its replacement is the leftmost scan. -/
theorem replaceChars_spelling (p : Placeholder) (new s : List Char) :
    replaceChars p.spelling new s = replaceFrom p.spelling new [] 0 s :=
  if_neg p.spelling_ne_nil

/-- The scan passes over what was matched already. -/
theorem replaceFrom_append (old new front s : List Char) :
    replaceFrom old new [] front.length (front ++ s) = replaceFrom old new [] 0 s := by
  induction front with
  | nil => rfl
  | cons c front ih => simpa [replaceFrom] using ih

/-- An occurrence in front of a text is replaced, and the scan goes on behind it. -/
theorem replaceChars_spelling_append (p : Placeholder) (new s : List Char) :
    replaceChars p.spelling new (p.spelling ++ s) = new ++ replaceChars p.spelling new s := by
  have hstarts : p.spelling.isPrefixOf (p.spelling ++ s) = true :=
    List.isPrefixOf_iff_prefix.mpr (List.prefix_append _ _)
  have hlength : p.spelling.length - 1 = (p.name ++ [']']).length := rfl
  rw [replaceChars_spelling, replaceChars_spelling]
  conv_lhs => rw [show p.spelling ++ s = '[' :: ((p.name ++ [']']) ++ s) from rfl]
  rw [replaceFrom, show '[' :: ((p.name ++ [']']) ++ s) = p.spelling ++ s from rfl, if_pos hstarts,
    replaceFrom_eq, hlength, replaceFrom_append]
  simp

/-- The scan passes over a character at which the placeholder does not begin. -/
theorem replaceChars_cons {p : Placeholder} {c : Char} {new s : List Char}
    (h : ¬p.spelling <+: c :: s) :
    replaceChars p.spelling new (c :: s) = c :: replaceChars p.spelling new s := by
  rw [← List.isPrefixOf_iff_prefix] at h
  rw [replaceChars_spelling, replaceChars_spelling, replaceFrom, if_neg h, replaceFrom_eq]
  rfl

/-- The scan passes over a text in which the placeholder begins nowhere. -/
theorem replaceChars_append_of_not_starts {p : Placeholder} {new text s : List Char}
    (h : ∀ t, t <:+ text → t ≠ [] → ¬p.spelling <+: t ++ s) :
    replaceChars p.spelling new (text ++ s) = text ++ replaceChars p.spelling new s := by
  induction text with
  | nil => rfl
  | cons c text ih =>
      have hstarts : ¬p.spelling <+: c :: (text ++ s) :=
        h (c :: text) (List.suffix_refl _) (List.cons_ne_nil c text)
      have htail := ih fun t ht => h t (ht.trans (List.suffix_cons c text))
      rw [List.cons_append, replaceChars_cons hstarts, htail, List.cons_append]

/-- The scan passes over a text that does not contain the placeholder, when the text ends or an
opening bracket follows. -/
theorem replaceChars_append_of_not_infix {p : Placeholder} {new text s : List Char}
    (htext : ¬p.spelling <:+: text) (hs : Opens s) :
    replaceChars p.spelling new (text ++ s) = text ++ replaceChars p.spelling new s :=
  replaceChars_append_of_not_starts fun _ ht hne =>
    Placeholder.not_prefix_append hne hs fun h => htext (h.trans ht.isInfix)

/-- The scan passes over a text without an opening bracket, whatever follows. -/
theorem replaceChars_append_of_notMem {p : Placeholder} {new text s : List Char}
    (htext : '[' ∉ text) :
    replaceChars p.spelling new (text ++ s) = text ++ replaceChars p.spelling new s := by
  refine replaceChars_append_of_not_starts fun t ht hne hstarts => ?_
  obtain ⟨c, t, rfl⟩ := List.exists_cons_of_ne_nil hne
  rw [List.cons_append] at hstarts
  exact htext ((List.cons_prefix_cons.mp hstarts).1 ▸ ht.subset List.mem_cons_self)

/-- The scan passes over a text that does not contain the placeholder and over a character after
it that the placeholder does not have. -/
theorem replaceChars_append_cons_of_notMem {p : Placeholder} {new text s : List Char} {c : Char}
    (htext : ¬p.spelling <:+: text) (hc : c ∉ p.spelling) :
    replaceChars p.spelling new (text ++ c :: s) =
      text ++ c :: replaceChars p.spelling new s := by
  have hstarts : ¬p.spelling <+: c :: s := fun h =>
    hc ((List.cons_prefix_cons.mp h).1 ▸ List.mem_cons_self)
  rw [replaceChars_append_of_not_starts, replaceChars_cons hstarts]
  intro t ht _ h
  have hfront : t ++ [c] <+: t ++ c :: s := by simp
  -- An occurrence that begins in the text lies within it, or it reaches the character.
  rcases List.prefix_or_prefix_of_prefix h hfront with hshort | hlong
  · rcases List.prefix_concat_iff.mp hshort with heq | hwithin
    · exact hc (by simp [heq])
    · exact htext (hwithin.isInfix.trans ht.isInfix)
  · exact hc (hlong.subset (by simp))

/-- The scan passes over every other placeholder, whatever follows. -/
theorem replaceChars_other_append {p q : Placeholder} (hne : p ≠ q) (new s : List Char) :
    replaceChars p.spelling new (q.spelling ++ s) =
      q.spelling ++ replaceChars p.spelling new s := by
  have hstarts : ¬p.spelling <+: '[' :: ((q.name ++ [']']) ++ s) := fun h =>
    hne (Placeholder.eq_of_starts h (List.prefix_append q.spelling s))
  rw [show q.spelling ++ s = '[' :: ((q.name ++ [']']) ++ s) from rfl, replaceChars_cons hstarts,
    replaceChars_append_of_notMem q.opening_notMem_tail]
  rfl

/-! ### The scan over segments -/

variable {ι : Type} [DecidableEq ι] (V : Vocabulary ι)

/-- Replacing a mark in proper segments fills that mark with the new text and every other one
with its spelling. -/
theorem replaceChars_fill {parts : Segments ι} (h : V.Proper parts) (m : ι) (new : List Char) :
    replaceChars (V.spelling m) new (parts.fill V.spelling) =
      parts.fill fun n => if n = m then new else V.spelling n := by
  induction parts with
  | last text =>
      have htext := h text (by simp [Segments.literals]) m
      have hpass : replaceChars (V.spelling m) new (text ++ []) =
          text ++ replaceChars (V.spelling m) new [] :=
        replaceChars_append_of_not_infix htext opens_nil
      simpa [Segments.fill, replaceChars_spelling, Vocabulary.spelling, replaceFrom] using hpass
  | mark text n rest ih =>
      have htext := h text List.mem_cons_self m
      have hrest := ih fun t ht => h t (List.mem_cons_of_mem _ ht)
      have hpass : replaceChars (V.spelling m) new
          (text ++ (V.spelling n ++ rest.fill V.spelling)) =
            text ++ replaceChars (V.spelling m) new (V.spelling n ++ rest.fill V.spelling) :=
        replaceChars_append_of_not_infix htext (V.opens_spelling_append _ _)
      rw [Segments.fill, Segments.fill, hpass, ← hrest]
      congr 1
      by_cases hn : n = m
      · subst hn
        rw [if_pos rfl]
        exact replaceChars_spelling_append _ _ _
      · rw [if_neg hn]
        exact replaceChars_other_append (fun h => hn (V.placeholder_injective h).symm) _ _

/-- Replacing a mark in a text fills that mark in the segments of the text. -/
theorem replaceChars_eq_fill_split (m : ι) (new s : List Char) :
    replaceChars (V.spelling m) new s =
      (V.split s).fill fun n => if n = m then new else V.spelling n := by
  have h := replaceChars_fill V (V.proper_split s) m new
  rwa [V.fill_split] at h

namespace Vocabulary

/-- What becomes of a mark when another one, or the mark itself, is replaced by a text. -/
def image (m : ι) (new : List Char) (n : ι) : Segments ι :=
  if n = m then V.split new else .mark [] n (.last [])

/-- Filled in, the image of the mark that is replaced is the text in its place, and every other
mark is as before. -/
theorem fill_image (f : ι → List Char) (m : ι) (new : List Char) (n : ι) :
    (V.image m new n).fill f = if n = m then (V.split new).fill f else f n := by
  rw [image]
  split
  · rfl
  · simp [Segments.fill]

/-- Replacing a mark in a text puts the segments of the new text for it. -/
theorem replaceChars_eq_fill_bind (m : ι) (new s : List Char) :
    replaceChars (V.spelling m) new s = ((V.split s).bind (V.image m new)).fill V.spelling := by
  rw [replaceChars_eq_fill_split, Segments.fill_bind]
  congr 1
  funext n
  rw [fill_image, fill_split]

/-- A clean text in the place of a mark of a clean text leaves its segments tight. -/
theorem Clean.tight_bind {V : Vocabulary ι} {s new : List Char} (hs : V.Clean s)
    (hnew : V.Clean new) (m : ι) : V.Tight ((V.split s).bind (V.image m new)) := by
  refine hs.tight.bind fun n => ?_
  rw [image]
  split
  · exact hnew.tight
  · exact V.tight_single n

/-- **A replacement acts on segments.** Where a clean text replaces a mark in a clean text, no
new mark arises. -/
theorem split_replaceChars {s new : List Char} (hs : V.Clean s) (hnew : V.Clean new) (m : ι) :
    V.split (replaceChars (V.spelling m) new s) = (V.split s).bind (V.image m new) := by
  rw [replaceChars_eq_fill_bind, V.split_fill (hs.tight_bind hnew m).proper]

/-- A clean text stays clean when a clean text replaces a mark in it. -/
theorem Clean.replaceChars {V : Vocabulary ι} {s new : List Char} (hs : V.Clean s)
    (hnew : V.Clean new) (m : ι) : V.Clean (replaceChars (V.spelling m) new s) := by
  rw [replaceChars_eq_fill_bind]
  exact (hs.tight_bind hnew m).clean_fill

end Vocabulary

end AlertRelay.Text

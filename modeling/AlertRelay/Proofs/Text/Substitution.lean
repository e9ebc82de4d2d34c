import AlertRelay.Proofs.Text.Replacement

/-!
# Replacing Several Placeholders

An **edit** is a placeholder with the content that replaces it. Edits that are made one after the
other could get in each other's way: a content may bring in another placeholder, and it may join
with what stands beside it to form one. The first cannot happen where no content has an opening
bracket, since every placeholder begins with one. The second cannot happen either where the text
is **seamless**: a placeholder that arises at a seam begins in a literal part that an occurrence
follows, and ends behind it.

Such edits amount to one substitution, in which each occurrence becomes its own content. This
tells the outcome without any order of the edits.

## Main results

* `Vocabulary.Sealed.bind`: texts that begin no placeholder can be put for marks.
* `Edits.applyEach_of_perm`: **edits in any order** amount to one substitution.
-/

namespace AlertRelay.Text

/-! ### Seams -/

namespace Segments

variable {ι : Type}

/-- The literal parts that a mark follows: all but the last. -/
def leading : Segments ι → List (List Char)
  | last _ => []
  | mark text _ rest => text :: rest.leading

end Segments

namespace Vocabulary

variable {ι : Type} (V : Vocabulary ι)

/-- Proper segments none of whose marks stands behind a literal part that ends open. -/
structure Sealed (s : Segments ι) : Prop where
  proper : V.Proper s
  closed : ∀ text ∈ s.leading, ¬V.EndsOpen text

/-- A text is **seamless** when no occurrence of a mark stands behind a literal part that ends
open. How the text itself ends is of no account. -/
def Seamless (s : List Char) : Prop := ∀ text ∈ (V.split s).leading, ¬V.EndsOpen text

instance (s : List Char) : Decidable (V.Seamless s) :=
  inferInstanceAs (Decidable (∀ text ∈ (V.split s).leading, ¬V.EndsOpen text))

variable {V}

/-- The segments of a seamless text are sealed. -/
theorem Seamless.sealed {s : List Char} (h : V.Seamless s) : V.Sealed (V.split s) :=
  ⟨V.proper_split s, h⟩

/-- Segments with a mark are sealed exactly if the literal part before it has no mark and does not
end open, and what follows is sealed. -/
theorem sealed_mark {text : List Char} {m : ι} {rest : Segments ι} :
    V.Sealed (.mark text m rest) ↔ V.Avoids text ∧ ¬V.EndsOpen text ∧ V.Sealed rest := by
  constructor
  · intro h
    exact ⟨h.proper _ List.mem_cons_self, h.closed _ List.mem_cons_self,
      fun t ht => h.proper t (List.mem_cons_of_mem _ ht),
      fun t ht => h.closed t (List.mem_cons_of_mem _ ht)⟩
  · rintro ⟨htext, hclosed, hrest⟩
    exact ⟨List.forall_mem_cons.mpr ⟨htext, hrest.proper⟩,
      List.forall_mem_cons.mpr ⟨hclosed, hrest.closed⟩⟩

/-- A literal part that does not end open can stand in front of sealed segments. -/
theorem Sealed.prepend {s : Segments ι} (hs : V.Sealed s) {text : List Char}
    (htext : V.Avoids text) (hclosed : ¬V.EndsOpen text) : V.Sealed (s.prepend text) := by
  cases s with
  | last back =>
      refine ⟨?_, by simp [Segments.prepend, Segments.leading]⟩
      have hback := hs.proper back (by simp [Segments.literals])
      simpa [Segments.prepend, Proper, Segments.literals] using htext.append hclosed hback
  | mark back m rest =>
      obtain ⟨hback, hopen, hrest⟩ := sealed_mark.mp hs
      refine sealed_mark.mpr ⟨htext.append hclosed hback, fun h => ?_, hrest⟩
      exact h.of_append.elim hclosed hopen

/-- Sealed segments stay sealed behind tight ones. -/
theorem Tight.append_sealed {s t : Segments ι} (hs : V.Tight s) (ht : V.Sealed t) :
    V.Sealed (s ++ t) := by
  induction s with
  | last text =>
      exact ht.prepend (hs.proper text (by simp [Segments.literals]))
        (hs.closed text (by simp [Segments.literals]))
  | mark text m rest ih =>
      obtain ⟨htext, hclosed, hrest⟩ := tight_mark.mp hs
      exact sealed_mark.mpr ⟨htext, hclosed, ih hrest⟩

/-- **No mark at a seam.** Tight segments that are put for the marks of sealed segments leave them
sealed. -/
theorem Sealed.bind {s : Segments ι} {f : ι → Segments ι} (hs : V.Sealed s)
    (hf : ∀ m, V.Tight (f m)) : V.Sealed (s.bind f) := by
  induction s with
  | last text => exact ⟨hs.proper, by simp [Segments.bind, Segments.leading]⟩
  | mark text m rest ih =>
      obtain ⟨htext, hclosed, hrest⟩ := sealed_mark.mp hs
      exact ((hf m).append_sealed (ih hrest)).prepend htext hclosed

/-! ### Contents without an opening bracket -/

/-- A text without a bracket has no mark. -/
theorem avoids_of_notMem {text : List Char} (h : '[' ∉ text) : V.Avoids text := fun m hm =>
  h (hm.subset (by simp [spelling, Placeholder.spelling]))

/-- A text without a bracket does not end open. -/
theorem not_endsOpen_of_notMem {text : List Char} (h : '[' ∉ text) : ¬V.EndsOpen text := by
  rintro ⟨m, start, hne, -, hstarts, hends⟩
  obtain ⟨c, start, rfl⟩ := List.exists_cons_of_ne_nil hne
  have hc : c = '[' := (List.cons_prefix_cons.mp hstarts).1
  exact h (hends.subset (hc ▸ List.mem_cons_self))

/-- A text without a bracket is one literal part. -/
theorem split_of_notMem {text : List Char} (h : '[' ∉ text) : V.split text = .last text := by
  have hproper : V.Proper (.last text) := fun t ht => by
    rw [List.mem_singleton.mp ht]
    exact avoids_of_notMem h
  exact V.split_fill hproper

/-- The image of a mark that is replaced by a text without a bracket is tight. -/
theorem tight_image [DecidableEq ι] (m : ι) {new : List Char} (h : '[' ∉ new) (n : ι) :
    V.Tight (V.image m new n) := by
  rw [image, split_of_notMem h]
  split
  · exact Tight.last (avoids_of_notMem h) (not_endsOpen_of_notMem h)
  · exact V.tight_single n

/-- One replacement puts its content for its mark, and keeps a text seamless. -/
theorem Seamless.split_replaceChars [DecidableEq ι] {s : List Char} (hs : V.Seamless s) (m : ι)
    {new : List Char} (hnew : '[' ∉ new) :
    V.split (replaceChars (V.spelling m) new s) = (V.split s).bind (V.image m new) ∧
      V.Seamless (replaceChars (V.spelling m) new s) := by
  have hsealed := hs.sealed.bind (tight_image m hnew)
  have hsplit : V.split (replaceChars (V.spelling m) new s) = (V.split s).bind (V.image m new) := by
    rw [replaceChars_eq_fill_bind, V.split_fill hsealed.proper]
  refine ⟨hsplit, ?_⟩
  rw [Seamless, hsplit]
  exact hsealed.closed

/-- The vocabulary of some placeholders. -/
def ofList (ps : List Placeholder) : Vocabulary {p // p ∈ ps} where
  marks := ps.attach
  complete := ps.mem_attach
  placeholder := Subtype.val
  placeholder_injective := Subtype.val_injective

end Vocabulary

/-! ### Edits -/

/-- A placeholder as a text. -/
def Placeholder.text (p : Placeholder) : String := String.ofList p.spelling

/-- Placeholders to replace, each with its content. -/
abbrev Edits := List (Placeholder × String)

namespace Edits

/-- The placeholders of some edits. -/
def placeholders (edits : Edits) : List Placeholder := edits.map Prod.fst

/-- The marks of some edits. -/
abbrev vocabulary (edits : Edits) : Vocabulary {p // p ∈ edits.placeholders} :=
  .ofList edits.placeholders

/-- What becomes of a placeholder: its content, or what it was if it is not edited. -/
def contentOf (edits : Edits) (p : Placeholder) : List Char :=
  ((edits.lookup p).map String.toList).getD p.spelling

/-- A text after all edits, one after the other. -/
def applyEach (edits : Edits) (s : String) : String :=
  edits.foldl (fun s e => replace e.1.text e.2 s) s

/-- A text after all edits at once: its literal parts stay, and every occurrence of a placeholder
becomes the content of that placeholder. -/
def applyAtOnce (edits : Edits) (s : String) : String :=
  String.ofList ((edits.vocabulary.split s.toList).fill fun p => edits.contentOf p.1)

/-- The first edit of a placeholder decides its content. -/
theorem contentOf_cons (e : Placeholder × String) (edits : Edits) (p : Placeholder) :
    contentOf (e :: edits) p = if p = e.1 then e.2.toList else contentOf edits p := by
  rw [contentOf, List.lookup_cons]
  by_cases h : p = e.1
  · simp [h]
  · rw [if_neg h, beq_eq_false_iff_ne.mpr h, contentOf]

/-- Edits one after the other in a seamless text, for placeholders of a vocabulary that may have
more of them. -/
theorem toList_applyEach {ps : List Placeholder} {edits : Edits} (hmem : ∀ e ∈ edits, e.1 ∈ ps)
    (hcontents : ∀ e ∈ edits, '[' ∉ e.2.toList) {s : String}
    (hs : (Vocabulary.ofList ps).Seamless s.toList) :
    (edits.applyEach s).toList =
      ((Vocabulary.ofList ps).split s.toList).fill fun p => edits.contentOf p.1 := by
  induction edits generalizing s with
  | nil => exact ((Vocabulary.ofList ps).fill_split s.toList).symm
  | cons e edits ih =>
      obtain ⟨hhead, htail⟩ := List.forall_mem_cons.mp hmem
      obtain ⟨hnew, hrest⟩ := List.forall_mem_cons.mp hcontents
      obtain ⟨hsplit, hseamless⟩ := hs.split_replaceChars ⟨e.1, hhead⟩ hnew
      have hnext : (replace e.1.text e.2 s).toList =
          replaceChars ((Vocabulary.ofList ps).spelling ⟨e.1, hhead⟩) e.2.toList s.toList := by
        rw [replace, Placeholder.text, String.toList_ofList, String.toList_ofList]
        rfl
      rw [← hnext] at hsplit hseamless
      rw [applyEach, List.foldl_cons, ← applyEach, ih htail hrest hseamless, hsplit,
        Segments.fill_bind]
      refine congrArg ((Vocabulary.ofList ps).split s.toList).fill (funext fun p => ?_)
      rw [Vocabulary.fill_image, Vocabulary.split_of_notMem hnew, contentOf_cons, Segments.fill]
      simp only [Subtype.ext_iff]

/-- What becomes of a placeholder does not depend on the order of the edits. -/
theorem contentOf_perm {order edits : Edits} (h : order.Perm edits)
    (hdistinct : order.placeholders.Nodup) (p : Placeholder) :
    order.contentOf p = edits.contentOf p := by
  induction h with
  | nil => rfl
  | cons e _ ih => rw [contentOf_cons, contentOf_cons, ih (List.nodup_cons.mp hdistinct).2]
  | swap e f rest =>
      have hne : f.1 ≠ e.1 := fun h => (List.nodup_cons.mp hdistinct).1 (h ▸ List.mem_cons_self)
      simp only [contentOf_cons]
      by_cases hp : p = f.1
      · rw [if_pos hp, if_neg fun he => hne (hp.symm.trans he), if_pos hp]
      · rw [if_neg hp, if_neg hp]
  | trans h _ ih ih' =>
      exact (ih hdistinct).trans (ih' ((h.map Prod.fst).nodup_iff.mp hdistinct))

/-- **Edits in any order** amount to one substitution, if their placeholders are distinct, no
content has an opening bracket, and the text is seamless. -/
theorem applyEach_of_perm {order edits : Edits} (h : order.Perm edits)
    (hdistinct : edits.placeholders.Nodup) (hcontents : ∀ e ∈ edits, '[' ∉ e.2.toList) {s : String}
    (hs : edits.vocabulary.Seamless s.toList) : order.applyEach s = edits.applyAtOnce s := by
  have hmem : ∀ e ∈ order, e.1 ∈ edits.placeholders := fun e he =>
    List.mem_map_of_mem (h.subset he)
  have hchars := toList_applyEach hmem (fun e he => hcontents e (h.subset he)) hs
  have horder : order.placeholders.Nodup := (h.map Prod.fst).nodup_iff.mpr hdistinct
  simp only [contentOf_perm h horder] at hchars
  rw [applyAtOnce, ← hchars, String.ofList_toList]

end Edits

end AlertRelay.Text

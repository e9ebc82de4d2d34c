import Mathlib.Data.List.Infix
import Mathlib.Logic.Function.Basic
import Mathlib.Tactic.Common

/-!
# Texts in Segments

A **placeholder** is a text in brackets without a bracket inside. Since an opening bracket
can only be its first character and a closing one only its last, no two occurrences of
placeholders overlap, and a text falls in exactly one way into literal parts and occurrences
of the placeholders of a **vocabulary**.

`Vocabulary.split` computes these segments from left to right. `Segments.fill` puts a text
for every mark, `Segments.bind` puts segments for every mark; a literal part then runs on
into the literal parts beside it. A literal part **ends open** when its end could begin a
placeholder; where no part does, no new placeholder arises at such a seam.

## Main results

* `Vocabulary.fill_split`: the segments of a text make up the text.
* `Vocabulary.proper_split`: no literal part of a text contains a placeholder.
* `Vocabulary.eq_split_iff`: segments with these properties are the only ones of their text.
* `Vocabulary.Tight.bind`: segments without open ends can be put for marks.
-/

namespace AlertRelay.Text

/-! ### Placeholders -/

/-- A text in brackets, by what stands between them. -/
structure Placeholder where
  name : List Char
  plain : ∀ c ∈ name, c ≠ '[' ∧ c ≠ ']'
  deriving DecidableEq

namespace Placeholder

/-- The text of a placeholder. -/
def spelling (p : Placeholder) : List Char := '[' :: (p.name ++ [']'])

/-- A placeholder has at least its opening bracket. -/
theorem spelling_ne_nil (p : Placeholder) : p.spelling ≠ [] := List.cons_ne_nil _ _

/-- After its first character a placeholder has no opening bracket. -/
theorem opening_notMem_tail (p : Placeholder) : '[' ∉ p.name ++ [']'] := by
  intro h
  rcases List.mem_append.mp h with h | h
  · exact (p.plain _ h).1 rfl
  · simp at h

/-- The end of a placeholder behind a part of it that is not empty has no opening bracket. -/
theorem opening_notMem_of_append {p : Placeholder} {front back : List Char}
    (h : p.spelling = front ++ back) (hfront : front ≠ []) : '[' ∉ back := by
  obtain ⟨c, front, rfl⟩ := List.exists_cons_of_ne_nil hfront
  have htail : p.name ++ [']'] = front ++ back := (List.cons.inj h).2
  intro hmem
  exact p.opening_notMem_tail (htail ▸ List.mem_append_right front hmem)

/-- Two names that a closing bracket ends are the same. -/
theorem name_eq_of_append {p q : List Char} {s t : List Char} (hp : ']' ∉ p) (hq : ']' ∉ q)
    (h : p ++ ']' :: s = q ++ ']' :: t) : p = q := by
  have hspan : ∀ (n r : List Char), ']' ∉ n → (n ++ ']' :: r).takeWhile (· ≠ ']') = n := by
    intro n r hn
    rw [List.takeWhile_append_of_pos]
    · simp
    · rintro c hc
      simp only [ne_eq, decide_not, Bool.not_eq_eq_eq_not, Bool.not_true, decide_eq_false_iff_not]
      rintro rfl
      exact hn hc
  rw [← hspan p s hp, h, hspan q t hq]

/-- A text begins with one placeholder at most. -/
theorem eq_of_starts {p q : Placeholder} {s : List Char} (hp : p.spelling <+: s)
    (hq : q.spelling <+: s) : p = q := by
  obtain ⟨u, hu⟩ := hp
  obtain ⟨v, hv⟩ := hq
  have h : p.name ++ ']' :: u = q.name ++ ']' :: v := by
    have := hu.trans hv.symm
    simpa [spelling] using this
  have hname : p.name = q.name :=
    name_eq_of_append (fun hc => (p.plain _ hc).2 rfl) (fun hc => (q.plain _ hc).2 rfl) h
  cases p
  cases q
  simpa using hname

end Placeholder

/-- A text after which a placeholder may begin: it is empty or has an opening bracket in
front. -/
def Opens (s : List Char) : Prop := ∀ c, s.head? = some c → c = '['

/-- Where nothing follows, a placeholder may begin. -/
theorem opens_nil : Opens [] := by simp [Opens]

/-- A placeholder that a text does not contain does not begin in it either, when an opening
bracket follows. -/
theorem Placeholder.not_prefix_append {p : Placeholder} {text s : List Char}
    (htext : text ≠ []) (hs : Opens s) (h : ¬p.spelling <:+: text) :
    ¬p.spelling <+: text ++ s := by
  intro hstarts
  rcases Nat.le_total p.spelling.length text.length with hle | hle
  · exact h (List.prefix_of_prefix_length_le hstarts (List.prefix_append text s) hle).isInfix
  · obtain ⟨back, hback⟩ := List.prefix_of_prefix_length_le (List.prefix_append text s) hstarts hle
    rw [← hback, List.prefix_append_right_inj] at hstarts
    cases back with
    | nil => exact h (by rw [← hback, List.append_nil])
    | cons c back =>
        obtain ⟨rest, hrest⟩ := hstarts
        have hc : c = '[' := hs c (by rw [← hrest]; rfl)
        exact opening_notMem_of_append hback.symm htext (hc ▸ List.mem_cons_self)

/-! ### Segments -/

/-- A text in segments: literal parts, with a mark between each two of them. -/
inductive Segments (ι : Type)
  | last (text : List Char)
  | mark (text : List Char) (m : ι) (rest : Segments ι)
  deriving DecidableEq, Repr

namespace Segments

variable {ι κ : Type}

/-- The literal parts, empty ones included. -/
def literals : Segments ι → List (List Char)
  | last text => [text]
  | mark text _ rest => text :: rest.literals

/-- The text with a text for each mark. -/
def fill (f : ι → List Char) : Segments ι → List Char
  | last text => text
  | mark text m rest => text ++ (f m ++ rest.fill f)

/-- The segments with a text in front of their first literal part. -/
def prepend (front : List Char) : Segments ι → Segments ι
  | last text => last (front ++ text)
  | mark text m rest => mark (front ++ text) m rest

/-- One text after the other: the literal parts that meet become one. -/
def append : Segments ι → Segments ι → Segments ι
  | last text, s => s.prepend text
  | mark text m rest, s => mark text m (rest.append s)

instance : Append (Segments ι) := ⟨append⟩

/-- The segments with segments for each mark. -/
def bind (f : ι → Segments κ) : Segments ι → Segments κ
  | last text => last text
  | mark text m rest => (f m ++ rest.bind f).prepend text

/-- Segments behind a single literal part have it in front of their first one. -/
@[simp] theorem last_append (text : List Char) (s : Segments ι) :
    last text ++ s = s.prepend text := rfl

/-- Segments behind segments come behind their last literal part. -/
@[simp] theorem mark_append (text : List Char) (m : ι) (rest s : Segments ι) :
    mark text m rest ++ s = mark text m (rest ++ s) := rfl

/-- A text in front stays in front when the marks are filled in. -/
@[simp] theorem fill_prepend (f : ι → List Char) (front : List Char) (s : Segments ι) :
    (s.prepend front).fill f = front ++ s.fill f := by
  cases s <;> simp [prepend, fill]

/-- Segments are filled in one after the other. -/
@[simp] theorem fill_append (f : ι → List Char) (s t : Segments ι) :
    (s ++ t).fill f = s.fill f ++ t.fill f := by
  induction s with
  | last text => simp [fill]
  | mark text m rest ih => simp [fill, ih]

/-- Filling the marks of segments that were put for marks fills the marks with what each of
them became. -/
theorem fill_bind (f : κ → List Char) (g : ι → Segments κ) (s : Segments ι) :
    (s.bind g).fill f = s.fill fun m => (g m).fill f := by
  induction s with
  | last text => rfl
  | mark text m rest ih => simp [bind, fill, ih]

/-- What stands before the first mark. -/
def first : Segments ι → List Char
  | last text => text
  | mark text _ _ => text

/-- A text begins with what stands before its first mark, whatever the marks are filled with. -/
theorem first_prefix_fill (f : ι → List Char) (s : Segments ι) : s.first <+: s.fill f := by
  cases s <;> simp [first, fill]

/-- The first literal part stands before the first mark. -/
theorem literals_eq (s : Segments ι) : s.literals = s.first :: s.literals.tail := by
  cases s <;> rfl

/-- A text in front changes only the first literal part. -/
theorem literals_prepend (front : List Char) (s : Segments ι) :
    (s.prepend front).literals = (front ++ s.first) :: s.literals.tail := by
  cases s <;> rfl

end Segments

/-! ### Vocabularies -/

/-- The marks that segments may have, each spelled by a placeholder of its own. -/
structure Vocabulary (ι : Type) where
  marks : List ι
  complete : ∀ m, m ∈ marks
  placeholder : ι → Placeholder
  placeholder_injective : Function.Injective placeholder

namespace Vocabulary

variable {ι : Type} (V : Vocabulary ι)

/-- The text of a mark. -/
def spelling (m : ι) : List Char := (V.placeholder m).spelling

/-- What begins with the spelling of a mark has an opening bracket in front. -/
theorem opens_spelling_append (m : ι) (s : List Char) : Opens (V.spelling m ++ s) := by
  simp [Opens, spelling, Placeholder.spelling]

/-- Two marks whose spellings begin one text are one mark. -/
theorem eq_of_starts {m n : ι} {s : List Char} (hm : V.spelling m <+: s)
    (hn : V.spelling n <+: s) : m = n :=
  V.placeholder_injective (Placeholder.eq_of_starts hm hn)

/-- The mark at the start of a text. -/
def startMark? (s : List Char) : Option ι := V.marks.find? fun m => (V.spelling m).isPrefixOf s

/-- The mark that is found at the start is the one whose spelling stands there. -/
theorem startMark?_eq_some {m : ι} {s : List Char} :
    V.startMark? s = some m ↔ V.spelling m <+: s := by
  have hfound : ∀ {n}, V.startMark? s = some n → V.spelling n <+: s := by
    intro n hn
    have := List.find?_some hn
    exact List.isPrefixOf_iff_prefix.mp this
  refine ⟨hfound, fun h => ?_⟩
  have hsome : (V.startMark? s).isSome := by
    rw [startMark?, List.find?_isSome]
    exact ⟨m, V.complete m, List.isPrefixOf_iff_prefix.mpr h⟩
  obtain ⟨n, hn⟩ := Option.isSome_iff_exists.mp hsome
  rw [V.eq_of_starts h (hfound hn)]
  exact hn

/-- No mark is found at the start exactly if no spelling stands there. -/
theorem startMark?_eq_none {s : List Char} :
    V.startMark? s = none ↔ ∀ m, ¬V.spelling m <+: s := by
  rw [Option.eq_none_iff_forall_ne_some]
  exact forall_congr' fun m => not_congr V.startMark?_eq_some

/-- The segments of what remains, after `skip` characters that the last mark still covers. -/
def splitFrom : ℕ → List Char → Segments ι
  | _, [] => .last []
  | skip + 1, _ :: rest => splitFrom skip rest
  | 0, c :: rest =>
      match V.startMark? (c :: rest) with
      | some m => .mark [] m (splitFrom ((V.spelling m).length - 1) rest)
      | none => (splitFrom 0 rest).prepend [c]

/-- The segments of a text: its occurrences of marks, and the literal parts around them. -/
def split (s : List Char) : Segments ι := V.splitFrom 0 s

/-- A text that contains no mark. -/
def Avoids (text : List Char) : Prop := ∀ m, ¬V.spelling m <:+: text

/-- A text whose end could begin a mark: a part of the mark that is neither empty nor all of
it. -/
def EndsOpen (text : List Char) : Prop :=
  ∃ m start, start ≠ [] ∧ start ≠ V.spelling m ∧ start <+: V.spelling m ∧ start <:+ text

/-- Segments whose literal parts contain no mark. -/
def Proper (s : Segments ι) : Prop := ∀ text ∈ s.literals, V.Avoids text

/-- Proper segments of whose literal parts none ends open. -/
structure Tight (s : Segments ι) : Prop where
  proper : V.Proper s
  closed : ∀ text ∈ s.literals, ¬V.EndsOpen text

/-- A text is **clean** when none of its literal parts ends open. -/
def Clean (s : List Char) : Prop := ∀ text ∈ (V.split s).literals, ¬V.EndsOpen text

instance (text : List Char) : Decidable (V.EndsOpen text) :=
  decidable_of_iff
    (∃ m ∈ V.marks, ∃ start ∈ (V.spelling m).inits,
      start ≠ [] ∧ start ≠ V.spelling m ∧ start <:+ text)
    (by
      constructor
      · rintro ⟨m, -, start, hstart, hne, hproper, hsuffix⟩
        exact ⟨m, start, hne, hproper, List.mem_inits _ _ |>.mp hstart, hsuffix⟩
      · rintro ⟨m, start, hne, hproper, hstarts, hsuffix⟩
        exact ⟨m, V.complete m, start, List.mem_inits _ _ |>.mpr hstarts, hne, hproper, hsuffix⟩)

instance (s : List Char) : Decidable (V.Clean s) :=
  inferInstanceAs (Decidable (∀ text ∈ (V.split s).literals, ¬V.EndsOpen text))

/-- The empty text has no mark. -/
theorem avoids_nil : V.Avoids [] := fun m hm =>
  (V.placeholder m).spelling_ne_nil (List.infix_nil.mp hm)

/-- The empty text does not end open. -/
theorem not_endsOpen_nil : ¬V.EndsOpen [] := by
  rintro ⟨m, start, hne, -, -, hsuffix⟩
  exact hne (List.suffix_nil.mp hsuffix)

/-! ### The segments of a text -/

/-- Splitting passes over what was matched already. -/
theorem splitFrom_append (front s : List Char) :
    V.splitFrom front.length (front ++ s) = V.splitFrom 0 s := by
  induction front with
  | nil => rfl
  | cons c front ih => simpa [splitFrom] using ih

/-- A mark in front of a text is its first one. -/
theorem split_spelling_append (m : ι) (s : List Char) :
    V.split (V.spelling m ++ s) = .mark [] m (V.split s) := by
  have hstart : V.startMark? (V.spelling m ++ s) = some m :=
    V.startMark?_eq_some.mpr (List.prefix_append _ _)
  have hlength : (V.spelling m).length - 1 = ((V.placeholder m).name ++ [']']).length := rfl
  rw [split]
  simp only [spelling, Placeholder.spelling, List.cons_append] at hstart ⊢
  rw [splitFrom, hstart]
  simp only
  rw [hlength, splitFrom_append, split]

/-- A text without a mark, with a mark or nothing behind it, is part of the first literal
part. -/
theorem split_append_of_avoids {text s : List Char} (htext : V.Avoids text) (hs : Opens s) :
    V.split (text ++ s) = (V.split s).prepend text := by
  induction text with
  | nil => cases h : V.split s <;> simp [h, Segments.prepend]
  | cons c text ih =>
      have hstart : V.startMark? (c :: (text ++ s)) = none :=
        V.startMark?_eq_none.mpr fun m =>
          Placeholder.not_prefix_append (List.cons_ne_nil c text) hs (htext m)
      have htail : V.Avoids text := fun m hm => htext m (List.infix_cons hm)
      have hsplit := ih htail
      rw [split] at hsplit ⊢
      rw [List.cons_append, splitFrom, hstart]
      simp only
      rw [hsplit]
      cases V.split s <;> simp [Segments.prepend]

/-- **Segments are unique.** Proper segments are those of the text that they make up. -/
theorem split_fill {s : Segments ι} (h : V.Proper s) : V.split (s.fill V.spelling) = s := by
  induction s with
  | last text =>
      have hsplit := V.split_append_of_avoids (h text (by simp [Segments.literals])) opens_nil
      simpa [split, splitFrom, Segments.prepend, Segments.fill] using hsplit
  | mark text m rest ih =>
      have hrest : V.Proper rest := fun t ht => h t (List.mem_cons_of_mem _ ht)
      rw [Segments.fill, V.split_append_of_avoids (h text List.mem_cons_self)
        (V.opens_spelling_append _ _), split_spelling_append, ih hrest]
      simp [Segments.prepend]

/-- The segments of a text make up the text. -/
theorem fill_splitFrom (skip : ℕ) (s : List Char) :
    (V.splitFrom skip s).fill V.spelling = s.drop skip := by
  induction s generalizing skip with
  | nil => simp [splitFrom, Segments.fill]
  | cons c rest ih =>
      cases skip with
      | succ skip => simpa [splitFrom] using ih skip
      | zero =>
          rw [splitFrom]
          cases hstart : V.startMark? (c :: rest) with
          | none => simp [ih 0]
          | some m =>
              have hstarts := V.startMark?_eq_some.mp hstart
              have hlength : 0 < (V.spelling m).length := by simp [spelling, Placeholder.spelling]
              simp only [Segments.fill, List.nil_append, ih]
              calc V.spelling m ++ rest.drop ((V.spelling m).length - 1)
                  = V.spelling m ++ (c :: rest).drop (V.spelling m).length := by
                    rw [← Nat.succ_pred_eq_of_pos hlength]; rfl
                _ = c :: rest := (List.prefix_iff_eq_append.mp hstarts)

/-- **Splitting loses nothing**: spelled again, the segments of a text are the text. -/
theorem fill_split (s : List Char) : (V.split s).fill V.spelling = s := V.fill_splitFrom 0 s

/-- No literal part of a text contains a mark. -/
theorem proper_splitFrom (skip : ℕ) (s : List Char) : V.Proper (V.splitFrom skip s) := by
  induction s generalizing skip with
  | nil =>
      intro text ht
      rw [List.mem_singleton.mp ht]
      exact V.avoids_nil
  | cons c rest ih =>
      cases skip with
      | succ skip => exact ih skip
      | zero =>
          rw [splitFrom]
          cases hstart : V.startMark? (c :: rest) with
          | some m =>
              intro text ht
              rcases List.mem_cons.mp ht with rfl | ht
              · exact V.avoids_nil
              · exact ih _ text ht
          | none =>
              intro text ht
              rw [Segments.literals_prepend] at ht
              have hrest := ih 0
              rcases List.mem_cons.mp ht with rfl | ht
              · intro m hm
                rcases List.infix_cons_iff.mp hm with hstarts | hinfix
                · have hfirst := (V.splitFrom 0 rest).first_prefix_fill V.spelling
                  rw [fill_splitFrom, List.drop_zero] at hfirst
                  refine V.startMark?_eq_none.mp hstart m (hstarts.trans ?_)
                  simpa using hfirst
                · refine hrest _ ?_ m hinfix
                  rw [Segments.literals_eq]
                  exact List.mem_cons_self
              · exact hrest text (List.mem_of_mem_tail ht)

/-- No literal part of a text that is split has a mark. -/
theorem proper_split (s : List Char) : V.Proper (V.split s) := V.proper_splitFrom 0 s

/-- The segments of a text are the only proper ones that make it up. -/
theorem eq_split_iff {s : List Char} {parts : Segments ι} :
    parts = V.split s ↔ V.Proper parts ∧ parts.fill V.spelling = s := by
  constructor
  · rintro rfl
    exact ⟨V.proper_split s, V.fill_split s⟩
  · rintro ⟨hproper, rfl⟩
    exact (V.split_fill hproper).symm

/-! ### Segments for marks -/

/-- Where a literal part does not end open, no mark arises at the seam behind it. -/
theorem Avoids.append {V : Vocabulary ι} {text back : List Char} (htext : V.Avoids text)
    (hclosed : ¬V.EndsOpen text) (hback : V.Avoids back) : V.Avoids (text ++ back) := by
  intro m hm
  rcases List.infix_append_iff_ne_nil.mp hm with h | h | ⟨start, rest, hstart, hrest, h, hs, -⟩
  · exact htext m h
  · exact hback m h
  · refine hclosed ⟨m, start, hstart, ?_, ⟨rest, h.symm⟩, hs⟩
    intro hall
    rw [hall, List.self_eq_append_right] at h
    exact hrest h

/-- A text that ends open does so by its last part, or by all of its last part and an end of
the part before it. -/
theorem EndsOpen.of_append {V : Vocabulary ι} {text back : List Char}
    (h : V.EndsOpen (text ++ back)) : V.EndsOpen text ∨ V.EndsOpen back := by
  obtain ⟨m, start, hne, hall, hstarts, before, hsuffix⟩ := h
  rcases List.append_eq_append_iff.mp hsuffix with ⟨front, rfl, rfl⟩ | ⟨rest, rfl, rfl⟩
  · by_cases hfront : front = []
    · subst hfront
      exact Or.inr ⟨m, back, hne, hall, hstarts, List.suffix_refl _⟩
    · refine Or.inl ⟨m, front, hfront, ?_, (List.prefix_append _ _).trans hstarts, ⟨before, rfl⟩⟩
      rintro rfl
      exact hall (hstarts.eq_of_length_le (List.prefix_append _ _).length_le)
  · exact Or.inr ⟨m, start, hne, hall, hstarts, ⟨rest, rfl⟩⟩

/-- A single literal part is tight if it has no mark and does not end open. -/
theorem Tight.last {V : Vocabulary ι} {text : List Char} (h : V.Avoids text)
    (hclosed : ¬V.EndsOpen text) : V.Tight (.last text) := by
  constructor
  · intro t ht
    rw [List.mem_singleton.mp ht]
    exact h
  · intro t ht
    rw [List.mem_singleton.mp ht]
    exact hclosed

/-- Segments with a mark are tight exactly if the literal part before it has no mark and does not
end open, and what follows is tight. -/
theorem tight_mark {V : Vocabulary ι} {text : List Char} {m : ι} {rest : Segments ι} :
    V.Tight (.mark text m rest) ↔ V.Avoids text ∧ ¬V.EndsOpen text ∧ V.Tight rest := by
  constructor
  · intro h
    exact ⟨h.proper _ List.mem_cons_self, h.closed _ List.mem_cons_self,
      fun t ht => h.proper t (List.mem_cons_of_mem _ ht),
      fun t ht => h.closed t (List.mem_cons_of_mem _ ht)⟩
  · rintro ⟨htext, hclosed, hrest⟩
    refine ⟨fun t ht => ?_, fun t ht => ?_⟩
    · rcases List.mem_cons.mp ht with rfl | ht
      · exact htext
      · exact hrest.proper t ht
    · rcases List.mem_cons.mp ht with rfl | ht
      · exact hclosed
      · exact hrest.closed t ht

/-- Tight segments stay tight when others follow. -/
theorem Tight.append {V : Vocabulary ι} {s t : Segments ι} (hs : V.Tight s) (ht : V.Tight t) :
    V.Tight (s ++ t) := by
  induction s with
  | last text =>
      have htext := hs.proper text (by simp [Segments.literals])
      have hclosed := hs.closed text (by simp [Segments.literals])
      have hfirst : t.first ∈ t.literals := by rw [t.literals_eq]; exact List.mem_cons_self
      rw [Segments.last_append]
      constructor
      · intro u hu
        rw [Segments.literals_prepend] at hu
        rcases List.mem_cons.mp hu with rfl | hu
        · exact htext.append hclosed (ht.proper _ hfirst)
        · exact ht.proper u (List.mem_of_mem_tail hu)
      · intro u hu
        rw [Segments.literals_prepend] at hu
        rcases List.mem_cons.mp hu with rfl | hu
        · intro hopen
          rcases hopen.of_append with hopen | hopen
          · exact hclosed hopen
          · exact ht.closed _ hfirst hopen
        · exact ht.closed u (List.mem_of_mem_tail hu)
  | mark text m rest ih =>
      obtain ⟨htext, hclosed, hrest⟩ := tight_mark.mp hs
      exact tight_mark.mpr ⟨htext, hclosed, ih hrest⟩

/-- **No new marks.** Tight segments that are put for the marks of tight segments leave them
tight. -/
theorem Tight.bind {V : Vocabulary ι} {s : Segments ι} {f : ι → Segments ι} (hs : V.Tight s)
    (hf : ∀ m, V.Tight (f m)) : V.Tight (s.bind f) := by
  induction s with
  | last text => exact hs
  | mark text m rest ih =>
      obtain ⟨htext, hclosed, hrest⟩ := tight_mark.mp hs
      exact (Tight.last htext hclosed).append ((hf m).append (ih hrest))

/-- A mark with nothing around it. -/
theorem tight_single (m : ι) : V.Tight (.mark [] m (.last [])) :=
  tight_mark.mpr ⟨V.avoids_nil, V.not_endsOpen_nil, Tight.last V.avoids_nil V.not_endsOpen_nil⟩

/-- The segments of a clean text are tight. -/
theorem Clean.tight {V : Vocabulary ι} {s : List Char} (h : V.Clean s) : V.Tight (V.split s) :=
  ⟨V.proper_split s, h⟩

/-- Tight segments make up a clean text. -/
theorem Tight.clean_fill {V : Vocabulary ι} {s : Segments ι} (h : V.Tight s) :
    V.Clean (s.fill V.spelling) := by
  intro text ht
  rw [V.split_fill h.proper] at ht
  exact h.closed text ht

end Vocabulary

end AlertRelay.Text

import AlertRelay.Endpoint
import AlertRelay.Proofs.Text.Case
import Mathlib.Data.List.Basic

/-!
# Endpoint Keys

A key shows the group and the name of an endpoint, each in lower case and with hyphens for the six
separators. The underscore is a separator itself, so a key has no other one than that between its
parts, and it can be taken apart in one way only.

The separators are replaced one after the other. Since each of them is one character and becomes
another one, a pass looks at every character on its own, and the order of the passes is of no
account. A part is a text of small characters without a separator; conversely such a text stays as
it is, in lower case because of the small characters (`Text.lower_eq_self_iff`) and through the
passes because there is nothing to replace. So the parts of keys are the parts of themselves, and
an endpoint that has them for its group and its name has the same key.

## Main results

* `Text.toList_foldl_replace`: single characters are replaced at once, in any order.
* `Endpoint.keyPart_eq_self_iff`: the texts that are parts of keys.
* `Endpoint.key_eq_append_iff`: a key can be taken apart in one way.
* `Endpoint.key_canonical`: **keys are canonical** and tell endpoints apart by their parts.
-/

namespace AlertRelay

/-! ### Replacing single characters -/

namespace Text

/-- Replacing one character by another looks at every character on its own. -/
theorem replaceChars_singleton (old new : Char) (s : List Char) :
    replaceChars [old] [new] s = s.map fun c => if c = old then new else c := by
  rw [replaceChars, if_neg (List.cons_ne_nil old [])]
  induction s with
  | nil => rfl
  | cons c rest ih =>
      rw [replaceFrom, List.map_cons, ← ih]
      by_cases hc : c = old
      · subst hc
        rw [if_pos (by simp), if_pos rfl, replaceFrom_eq]
        rfl
      · rw [if_neg (by simpa using Ne.symm hc), if_neg hc, replaceFrom_eq]
        rfl

/-- The same for texts of one character. -/
theorem toList_replace_singleton (old new : Char) (s : String) :
    (replace (String.singleton old) (String.singleton new) s).toList =
      s.toList.map fun c => if c = old then new else c := by
  rw [replace, String.toList_ofList, String.toList_singleton, String.toList_singleton,
    replaceChars_singleton]

/-- **Single characters are replaced at once**: passes that replace them one after the other by the
same character replace each occurrence of any of them. -/
theorem toList_foldl_replace {olds : List String} (hsingle : ∀ old ∈ olds, ∃ c, old = .singleton c)
    (new : Char) (s : String) :
    (olds.foldl (fun s old => replace old (String.singleton new) s) s).toList =
      s.toList.map fun c => if String.singleton c ∈ olds then new else c := by
  induction olds generalizing s with
  | nil => simp
  | cons old olds ih =>
      obtain ⟨⟨o, rfl⟩, hrest⟩ := List.forall_mem_cons.mp hsingle
      rw [List.foldl_cons, ih hrest, toList_replace_singleton, List.map_map]
      refine List.map_congr_left fun c _ => ?_
      simp only [Function.comp_apply, List.mem_cons, String.singleton_inj]
      -- what has become the new character stays, also where a later pass replaces that one
      by_cases hc : c = o
      · simp [hc]
      · simp [hc]

end Text

/-! ### The parts of keys -/

namespace Endpoint

open Text

/-- The characters that a key shows as a hyphen. -/
def separators : List Char := [' ', '/', '_', ',', '.', '#']

/-- What a key shows for a character in lower case. -/
def hyphenate (c : Char) : Char := if c ∈ separators then '-' else c

/-- The separators are texts of one character. -/
theorem keySeparators_eq : keySeparators = separators.map String.singleton := by decide

/-- What a key shows for a character is no separator. -/
theorem hyphenate_notMem_separators (c : Char) : hyphenate c ∉ separators := by
  rw [hyphenate]
  split
  case isTrue => decide
  case isFalse h => exact h

/-- What a key shows for a small character is small. -/
theorem isSmall_hyphenate {c : Char} (h : IsSmall c) : IsSmall (hyphenate c) := by
  rw [hyphenate]
  split
  case isTrue => decide
  case isFalse => exact h

/-- The passes for the separators in any order. -/
theorem toList_foldl_separators {order : List String} (h : order.Perm keySeparators) (s : String) :
    (order.foldl (fun part separator => Text.replace separator "-" part) s).toList =
      s.toList.map hyphenate := by
  have hsingle : ∀ old ∈ order, ∃ c, old = String.singleton c := by
    intro old hold
    have hmem := h.mem_iff.mp hold
    rw [keySeparators_eq] at hmem
    obtain ⟨c, -, hc⟩ := List.mem_map.mp hmem
    exact ⟨c, hc.symm⟩
  have hmem (c : Char) : String.singleton c ∈ order ↔ c ∈ separators := by
    rw [h.mem_iff, keySeparators_eq, List.mem_map_of_injective fun _ _ => String.singleton_inj.mp]
  rw [show "-" = String.singleton '-' from rfl, toList_foldl_replace hsingle]
  simp only [hmem]
  rfl

/-- A part of a key shows each character of the text in lower case. -/
theorem toList_keyPart (s : String) : (keyPart s).toList = (lower s).toList.map hyphenate :=
  toList_foldl_separators (.refl keySeparators) (lower s)

/-- Small characters without a separator. -/
def IsKeyPart (s : String) : Prop := ∀ c ∈ s.toList, IsSmall c ∧ c ∉ separators

/-- Parts of keys have small characters and no separators. -/
theorem isKeyPart_keyPart (s : String) : IsKeyPart (keyPart s) := by
  intro c hc
  rw [toList_keyPart] at hc
  obtain ⟨d, hd, rfl⟩ := List.mem_map.mp hc
  exact ⟨isSmall_hyphenate (isSmall_of_mem_lower hd), hyphenate_notMem_separators d⟩

/-- The texts that are parts of keys are those that are their own parts. -/
theorem keyPart_eq_self_iff {s : String} : keyPart s = s ↔ IsKeyPart s := by
  constructor
  · intro h
    rw [← h]
    exact isKeyPart_keyPart s
  · intro h
    have hlower : lower s = s := lower_eq_self_iff.mpr fun c hc => (h c hc).1
    have hsame : s.toList.map hyphenate = s.toList :=
      List.map_congr_left (fun c hc => if_neg (h c hc).2) |>.trans (List.map_id _)
    rw [← String.toList_inj, toList_keyPart, hlower, hsame]

/-! ### Keys -/

/-- A key is its two parts with an underscore between them. -/
theorem toList_key (e : Endpoint) :
    e.key.toList = (keyPart e.group).toList ++ '_' :: (keyPart e.name).toList := by
  rw [key, String.toList_append, String.toList_append, List.append_assoc]
  rfl

/-- A part of a key has no separator. -/
theorem notMem_keyPart {c : Char} (hc : c ∈ separators) (s : String) : c ∉ (keyPart s).toList :=
  fun h => (isKeyPart_keyPart s c h).2 hc

/-- **A key can be taken apart in one way.** -/
theorem key_eq_append_iff {e : Endpoint} {before after : String} :
    e.key = before ++ "_" ++ after ↔ keyPart e.group = before ∧ keyPart e.name = after := by
  have hgroup : '_' ∉ (keyPart e.group).toList := notMem_keyPart (by decide) e.group
  have hname : '_' ∉ (keyPart e.name).toList := notMem_keyPart (by decide) e.name
  have hjoined : (before ++ "_" ++ after).toList = before.toList ++ '_' :: after.toList := by
    rw [String.toList_append, String.toList_append, List.append_assoc]
    rfl
  rw [← String.toList_inj, toList_key, hjoined, List.append_cons_inj_of_notMem hgroup hname,
    String.toList_inj, String.toList_inj]
  simp only [true_and]

/-- An underscore occurs in a key once, and no other separator does. -/
theorem count_key (e : Endpoint) {c : Char} (hc : c ∈ separators) :
    e.key.toList.count c = if c = '_' then 1 else 0 := by
  have hgroup := List.count_eq_zero.mpr (notMem_keyPart hc e.group)
  have hname := List.count_eq_zero.mpr (notMem_keyPart hc e.name)
  rw [toList_key, List.count_append, List.count_cons, hgroup, hname]
  by_cases h : c = '_'
  · subst h
    rfl
  · rw [if_neg h, if_neg (by simpa using Ne.symm h)]

/-- An endpoint that has the parts of a key for its group and its name has that key. -/
theorem key_of_parts (e : Endpoint) (url : String) :
    key { name := keyPart e.name, group := keyPart e.group, url := url } = e.key := by
  have hgroup : keyPart (keyPart e.group) = keyPart e.group :=
    keyPart_eq_self_iff.mpr (isKeyPart_keyPart e.group)
  have hname : keyPart (keyPart e.name) = keyPart e.name :=
    keyPart_eq_self_iff.mpr (isKeyPart_keyPart e.name)
  rw [key, hgroup, hname, key]

/-- **Keys are canonical.** A key has one underscore and none of the other separators. What stands
before the underscore and behind it are the parts for the group and for the name, so endpoints have
one key if and only if they agree in both parts. A part is the text in lower case with a hyphen for
each separator, in whatever order these are replaced. An endpoint that is made from the two halves
of a key has that key. -/
theorem key_canonical (e : Endpoint) :
    e.key.toList.count '_' = 1 ∧ (∀ c ∈ [' ', '/', ',', '.', '#'], c ∉ e.key.toList) ∧
      (∀ before after, e.key = before ++ "_" ++ after ↔
        keyPart e.group = before ∧ keyPart e.name = after) ∧
      (∀ other : Endpoint, e.key = other.key ↔
        keyPart e.group = keyPart other.group ∧ keyPart e.name = keyPart other.name) ∧
      (∀ s, keyPart s = String.ofList ((lower s).toList.map fun c =>
        if c ∈ [' ', '/', '_', ',', '.', '#'] then '-' else c)) ∧
      (∀ s, ∀ order : List String, order.Perm keySeparators →
        order.foldl (fun part separator => Text.replace separator "-" part) (lower s) =
          keyPart s) ∧
      ∀ before after url, e.key = before ++ "_" ++ after →
        key { name := after, group := before, url := url } = e.key := by
  refine ⟨count_key e (by decide), fun c hc => ?_, fun _ _ => key_eq_append_iff, fun other => ?_,
    fun s => ?_, fun s order horder => ?_, fun before after url hkey => ?_⟩
  · have hall : [' ', '/', ',', '.', '#'].all (fun c => c ∈ separators ∧ c ≠ '_') = true := by
      decide
    obtain ⟨hseparator, hne⟩ := of_decide_eq_true (List.all_eq_true.mp hall c hc)
    rw [← List.count_eq_zero, count_key e hseparator, if_neg hne]
  · rw [show other.key = keyPart other.group ++ "_" ++ keyPart other.name from rfl,
      key_eq_append_iff]
  · rw [← String.toList_inj, toList_keyPart, String.toList_ofList]
    rfl
  · rw [← String.toList_inj, toList_foldl_separators horder, toList_keyPart]
  · obtain ⟨rfl, rfl⟩ := key_eq_append_iff.mp hkey
    exact key_of_parts e url

/-- A capital sigma at the end of a word, one in front of an ignorable character, and a character
whose lower case has two. -/
theorem key_canonical_sigma :
    let e : Endpoint := { name := "ΑΣ.Α Σ", group := "İ_ΟΔΟΣ" }
    e.key = "i̇-οδος_ασ-α-σ" ∧
      (keySeparators.reverse.Perm keySeparators ∧
        keySeparators.reverse.foldl (fun part separator => Text.replace separator "-" part)
          (lower e.name) = "ασ-α-σ") ∧
      key { name := "ασ-α-σ", group := "i̇-οδος", url := "http://h/" } = "i̇-οδος_ασ-α-σ" := by
  intro e
  obtain ⟨-, -, -, -, -, horder, hhalves⟩ := key_canonical e
  have hperm : keySeparators.reverse.Perm keySeparators := List.reverse_perm keySeparators
  have hkey : e.key = "i̇-οδος_ασ-α-σ" := by decide +kernel
  refine ⟨hkey, ⟨hperm, (horder e.name _ hperm).trans (by decide +kernel)⟩, ?_⟩
  exact (hhalves "i̇-οδος" "ασ-α-σ" "http://h/" (hkey.trans (by decide))).trans hkey

end Endpoint

end AlertRelay

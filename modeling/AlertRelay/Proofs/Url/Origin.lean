import AlertRelay.Url.Reader
import Mathlib.Data.List.TakeWhile
import Mathlib.Tactic.Common

/-!
# Origins of URLs

An **origin** is a scheme, the marks `://` and an authority: all that decides where a request
goes. A text that begins with an origin, which a slash, a question mark or a number sign ends, is
split behind it, whatever follows. The parts before the end of the authority are then read from
the origin alone; what follows is the path, the query and the fragment, and since the path is
empty or begins with a slash, it is never taken for anything else.

## Main results

* `Origin.split_text`: where the parts of a text lie that begins with an origin.
* `assemble_of_rooted`: a path behind an authority adds to the URL and changes nothing of it.
* `Origin.read_text`: **reading a text is reading its origin**, with a path, a query and a
  fragment put to it.
-/

namespace AlertRelay.Url

open Text

/-! ### Controls -/

/-- No control is found exactly if there is none. -/
theorem findControl?_eq_none {s : List Char} :
    findControl? s = none ↔ ∀ c ∈ s, isControl c = false := by
  rw [findControl?]
  cases hrest : s.dropWhile (!isControl ·) with
  | nil => simpa [List.dropWhile_eq_nil_iff] using hrest
  | cons c rest =>
      simp only [reduceCtorEq, false_iff]
      intro hall
      have hnil : s.dropWhile (!isControl ·) = [] :=
        List.dropWhile_eq_nil_iff.mpr fun c hc => by simp [hall c hc]
      rw [hrest] at hnil
      cases hnil

/-- A text that is read as a URL is short enough and has no controls. -/
theorem bounds_of_read {text : String} {url : Url} (h : Url.read text = .ok url) :
    text.toList.length ≤ lengthLimit ∧ ∀ c ∈ text.toList, isControl c = false := by
  rw [Url.read] at h
  dsimp only at h
  split at h
  · cases h
  · next hlength =>
      refine ⟨Nat.not_lt.mp hlength, findControl?_eq_none.mp ?_⟩
      cases hcontrol : findControl? text.toList with
      | none => rfl
      | some found =>
          rw [hcontrol] at h
          cases h

/-! ### Paths -/

/-- A path that can follow an authority. -/
def Rooted (path : List Char) : Prop := path = [] ∨ path.head? = some '/'

/-- Behind a scheme, a path that can follow an authority is in order. -/
theorem checkPath_of_rooted (hasAuthority : Bool) {path : List Char} (h : Rooted path) :
    checkPath true hasAuthority path = .ok () := by
  rw [checkPath]
  rcases h with rfl | h
  · simp
  · simp [h]

/-- Behind a scheme, a path that can follow an authority adds to the URL of the parts before it
and changes nothing of it. The same holds for a query and a fragment. -/
theorem assemble_of_rooted {scheme path : List Char} (hscheme : scheme ≠ []) (hpath : Rooted path)
    (user host port : List Char) (query fragment : Option (List Char)) :
    assemble scheme user host port path query fragment =
      (assemble scheme user host port [] none none).map fun base =>
        { base with
          path := String.ofList (quote .path (normalizePath path))
          query := query.map fun q => String.ofList (quote .query q)
          fragment := fragment.map fun f => String.ofList (quote .fragment f) } := by
  simp only [assemble, hscheme, ne_eq, not_false_eq_true, decide_true, Bool.true_or, if_true]
  cases encodeHost host with
  | error fault => rfl
  | ok name =>
      cases readPort scheme port with
      | error fault => rfl
      | ok number =>
          simp only [bind, Except.bind, checkPath_of_rooted _ hpath,
            checkPath_of_rooted _ (.inl rfl)]
          rfl

/-! ### Origins -/

/-- A scheme and an authority, as a text spells them. -/
structure Origin where
  initial : Char
  more : List Char
  authority : List Char
  initial_isLetter : isLetter initial = true
  more_isScheme : more.all isSchemeChar = true
  authority_open : authority.all (!endsAuthority ·) = true

/-- A text that can follow an authority: it is empty or begins with a mark that ends one. -/
def FollowsAuthority (s : List Char) : Prop := ∀ c, s.head? = some c → endsAuthority c = true

/-- What begins with a mark that ends an authority can follow one. -/
theorem followsAuthority_cons {c : Char} (h : endsAuthority c = true) (s : List Char) :
    FollowsAuthority (c :: s) := by
  rintro d ⟨⟩
  exact h

namespace Origin

/-- The scheme. -/
def scheme (o : Origin) : List Char := o.initial :: o.more

/-- The text of an origin. -/
def text (o : Origin) : List Char := o.scheme ++ ':' :: '/' :: '/' :: o.authority

/-- A text begins with an origin, which one of the three marks ends. -/
def Begins (o : Origin) (s : List Char) : Prop :=
  ∃ mark rest, endsAuthority mark = true ∧ s = o.text ++ mark :: rest

/-- The scheme of an origin is not empty. -/
theorem scheme_ne_nil (o : Origin) : o.scheme ≠ [] := List.cons_ne_nil _ _

/-- It has characters of schemes only. -/
theorem isSchemeChar_of_mem {o : Origin} {c : Char} (h : c ∈ o.scheme) : isSchemeChar c = true := by
  rcases List.mem_cons.mp h with rfl | h
  · simp [isSchemeChar, o.initial_isLetter]
  · exact List.all_eq_true.mp o.more_isScheme c h

/-- It does not begin with a colon. -/
theorem initial_ne_colon (o : Origin) : o.initial ≠ ':' := by
  intro h
  have := o.initial_isLetter
  rw [h] at this
  cases this

/-! ### Splitting -/

/-- The scheme of an origin is split off in front of its slashes. -/
theorem splitScheme_text (o : Origin) (tail : List Char) :
    splitScheme (o.text ++ tail) = (o.scheme, '/' :: '/' :: (o.authority ++ tail)) := by
  have htext : o.text ++ tail = o.scheme ++ ':' :: '/' :: '/' :: (o.authority ++ tail) := by
    simp [text]
  have hscheme : ∀ c ∈ o.scheme, isSchemeChar c = true := fun _ => isSchemeChar_of_mem
  have hcolon : isSchemeChar ':' = false := rfl
  have hdrop : (o.text ++ tail).dropWhile isSchemeChar =
      ':' :: '/' :: '/' :: (o.authority ++ tail) := by
    rw [htext, List.dropWhile_append_of_pos hscheme, List.dropWhile_cons_of_neg (by simp [hcolon])]
  have htake : (o.text ++ tail).takeWhile isSchemeChar = o.scheme := by
    rw [htext, List.takeWhile_append_of_pos hscheme, List.takeWhile_cons_of_neg (by simp [hcolon]),
      List.append_nil]
  obtain ⟨rest, hrest⟩ : ∃ rest, o.text ++ tail = o.initial :: rest := ⟨_, rfl⟩
  rw [hrest] at hdrop htake ⊢
  simp only [splitScheme, if_neg o.initial_ne_colon, if_pos o.initial_isLetter, hdrop, htake]

/-- The authority of an origin is split off up to the mark that ends it. -/
theorem splitSlashes_text (o : Origin) {tail : List Char} (h : FollowsAuthority tail) :
    splitSlashes ('/' :: '/' :: (o.authority ++ tail)) = (o.authority, tail) := by
  have hopen : ∀ c ∈ o.authority, (!endsAuthority c) = true :=
    List.all_eq_true.mp o.authority_open
  rw [splitSlashes, List.takeWhile_append_of_pos hopen, List.dropWhile_append_of_pos hopen]
  cases tail with
  | nil => simp
  | cons c tail => simp [h c rfl]

/-- What stands before a query and a fragment behind an authority can be a path. -/
theorem rooted_of_followsAuthority {tail : List Char} (h : FollowsAuthority tail) :
    Rooted (splitMark '?' (splitMark '#' tail).1).1 := by
  cases tail with
  | nil => exact .inl rfl
  | cons c tail =>
      have hmark : c = '/' ∨ c = '?' ∨ c = '#' := by
        simpa [endsAuthority, or_assoc] using h c rfl
      rcases hmark with rfl | rfl | rfl
      · exact .inr (by simp [splitMark])
      · exact .inl (by simp [splitMark])
      · exact .inl (by simp [splitMark])

/-- **Where the parts lie.** A text that begins with an origin has the scheme and the authority of
the origin, and its path is empty or begins with a slash. -/
theorem split_text (o : Origin) {tail : List Char} (h : FollowsAuthority tail) :
    ∃ path query fragment,
      Parts.split (o.text ++ tail) = ⟨o.scheme, o.authority, path, query, fragment⟩ ∧
        Rooted path := by
  refine ⟨(splitMark '?' (splitMark '#' tail).1).1, (splitMark '?' (splitMark '#' tail).1).2,
    (splitMark '#' tail).2, ?_, rooted_of_followsAuthority h⟩
  simp only [Parts.split, splitScheme_text, o.splitSlashes_text h]

/-! ### Reading -/

/-- The URL of an origin with nothing behind it. -/
def base (o : Origin) : Except Fault Url :=
  let (user, host, port) := splitAuthority o.authority
  assemble o.scheme user host port [] none none

/-- **Reading a text is reading its origin.** A text that begins with an origin and is neither too
long nor has controls is read as its origin, with a path, a query and a fragment put to it; if
the origin cannot be read, neither can the text, for the same reason. -/
theorem read_text (o : Origin) {tail : List Char} (h : FollowsAuthority tail)
    (hlength : (o.text ++ tail).length ≤ lengthLimit)
    (hcontrol : ∀ c ∈ o.text ++ tail, isControl c = false) :
    ∃ path query fragment,
      Url.read (String.ofList (o.text ++ tail)) =
        o.base.map fun base => { base with path, query, fragment } := by
  obtain ⟨path, query, fragment, hsplit, hrooted⟩ := o.split_text h
  rw [Url.read, String.toList_ofList]
  dsimp only
  rw [if_neg (Nat.not_lt.mpr hlength), findControl?_eq_none.mpr hcontrol, hsplit]
  exact ⟨_, _, _, assemble_of_rooted o.scheme_ne_nil hrooted _ _ _ query fragment⟩

/-- A text that is read and begins with an origin differs from the origin in its path, its query
and its fragment only. -/
theorem base_of_read {o : Origin} {text : String} {url : Url} (hbegins : o.Begins text.toList)
    (hread : Url.read text = .ok url) :
    ∃ base path query fragment, o.base = .ok base ∧ url = { base with path, query, fragment } := by
  obtain ⟨mark, rest, hmark, htext⟩ := hbegins
  have hlist : text = String.ofList (o.text ++ mark :: rest) := by
    rw [← htext, String.ofList_toList]
  obtain ⟨hlength, hcontrol⟩ := bounds_of_read hread
  rw [htext] at hlength hcontrol
  obtain ⟨path, query, fragment, hmap⟩ :=
    o.read_text (followsAuthority_cons hmark rest) hlength hcontrol
  rw [hlist, hmap] at hread
  cases hbase : o.base with
  | error fault =>
      rw [hbase] at hread
      cases hread
  | ok base =>
      rw [hbase] at hread
      exact ⟨base, path, query, fragment, rfl, (Except.ok.inj hread).symm⟩

end Origin

end AlertRelay.Url

import AlertRelay.Proofs.Url.Query
import AlertRelay.Url.Jar

/-!
# URLs that a Cookie Jar Takes

The jar of a client reads the text of a URL once more. Of a text that begins with an origin it
looks at the authority only: the scheme is a type for it, and what it cuts off at a number sign
lies behind the authority.

The text of a URL that was read begins with an origin if the URL has a scheme and a host of
printable ASCII characters, none of which is a mark. What follows is percent-encoded, and an
authority around such a host has neither brackets nor characters that stand for marks. So the jar
takes the URL, and what is said about a URL that it does not take is said about one without a
scheme, without a host, or with an address between brackets.

## Main results

* `Origin.jarFaultOfText?_text`: **the jar looks at the authority** of a text that begins with an
  origin.
* `exists_origin_of_read`: the text of a URL begins with an origin.
* `jarFault?_of_read`: **the jar takes a URL** with a scheme and a plain host.
-/

namespace AlertRelay.Url

open Text

/-! ### Texts that begin with an origin -/

/-- A character of a scheme may be one of a type. -/
theorem isTypeChar_of_isSchemeChar {c : Char} (h : isSchemeChar c = true) :
    isTypeChar c = true := by
  simp only [isTypeChar, Bool.and_eq_true, decide_eq_true_eq]
  constructor <;> rintro rfl <;> cases h

/-- What stands in front of the last number sign keeps what has none. -/
theorem beforeTag_append {front : List Char} (h : '#' ∉ front) (tail : List Char) :
    ∃ kept, beforeTag (front ++ tail) = front ++ kept := by
  rw [beforeTag]
  by_cases htag : '#' ∈ tail
  · obtain ⟨behind, before, hreverse, hbehind⟩ :=
      List.eq_append_cons_of_mem (List.mem_reverse.mpr htag)
    have htext : (front ++ tail).reverse = behind ++ '#' :: (before ++ front.reverse) := by
      rw [List.reverse_append, hreverse, List.append_assoc, List.cons_append]
    have hdropped : ∀ c ∈ behind, decide (c ≠ '#') = true := fun c hc =>
      decide_eq_true fun heq => hbehind (heq ▸ hc)
    refine ⟨before.reverse, ?_⟩
    rw [if_pos (by simp [htag]), htext, List.dropWhile_append_of_pos hdropped,
      List.dropWhile_cons_of_neg (by simp), List.drop_one, List.tail_cons, List.reverse_append,
      List.reverse_reverse]
  · refine ⟨tail, if_neg ?_⟩
    simp [h, htag]

/-- A number sign at the end belongs to what follows a text without one. -/
theorem dropEmptyTag_append {front : List Char} (h : '#' ∉ front) {tail : List Char}
    (htail : FollowsAuthority tail) :
    ∃ kept, FollowsAuthority kept ∧ dropEmptyTag (front ++ tail) = front ++ kept := by
  rw [dropEmptyTag]
  by_cases hlast : (front ++ tail).getLast? = some '#'
  · rw [if_pos hlast]
    cases tail with
    | nil =>
        rw [List.append_nil] at hlast
        exact absurd (List.mem_of_getLast? hlast) h
    | cons c tail =>
        refine ⟨(c :: tail).dropLast, ?_, List.dropLast_append_of_ne_nil (List.cons_ne_nil c tail)⟩
        cases tail with
        | nil => rintro _ ⟨⟩
        | cons d tail =>
            rintro _ ⟨⟩
            exact htail c rfl
  · exact ⟨tail, htail, if_neg hlast⟩

namespace Origin

variable (o : Origin)

/-- An origin has no number sign. -/
theorem tag_notMem_text : '#' ∉ o.text := by
  intro h
  rcases List.mem_append.mp h with h | h
  · cases isSchemeChar_of_mem h
  · have hauthority : '#' ∈ o.authority := by simpa using h
    cases List.all_eq_true.mp o.authority_open _ hauthority

/-- The scheme of an origin is a type for the jar. -/
theorem hasType_text (tail : List Char) : hasType (o.text ++ tail) = true := by
  have htype : ∀ c ∈ o.scheme, isTypeChar c = true := fun _ hc =>
    isTypeChar_of_isSchemeChar (isSchemeChar_of_mem hc)
  have hcolon : ¬isTypeChar ':' = true := by decide
  have htext : o.text ++ tail = o.scheme ++ ':' :: '/' :: '/' :: (o.authority ++ tail) := by
    simp [text]
  rw [hasType, htext, List.takeWhile_append_of_pos htype, List.dropWhile_append_of_pos htype,
    List.takeWhile_cons_of_neg hcolon, List.dropWhile_cons_of_neg hcolon, List.append_nil]
  simp [o.scheme_ne_nil]

/-- **The jar looks at the authority.** Of a text that begins with an origin, nothing that follows
matters to it. -/
theorem jarFaultOfText?_text {tail : List Char} (h : FollowsAuthority tail) :
    jarFaultOfText? (o.text ++ tail) = authorityFault? o.authority := by
  obtain ⟨before, hbefore⟩ := beforeTag_append o.tag_notMem_text tail
  obtain ⟨kept, hkept, htext⟩ := dropEmptyTag_append o.tag_notMem_text h
  rw [jarFaultOfText?, hbefore, hasType_text, if_pos rfl, htext, splitScheme_text]
  dsimp only
  rw [o.splitSlashes_text hkept]

end Origin

/-! ### Authorities -/

/-- Characters that an authority may have anywhere: those of ASCII, but no brackets, and none
that ends it. -/
def isAuthorityChar (c : Char) : Bool :=
  isAsciiChar c && c ≠ '[' && c ≠ ']' && !endsAuthority c

/-- What stands for a mark is outside ASCII. -/
theorem markVariants_not_ascii : ∀ n ∈ markVariants, 0x80 ≤ n := by decide

/-- An authority of such characters has no fault. -/
theorem authorityFault?_of_isAuthorityChar {s : List Char}
    (h : ∀ c ∈ s, isAuthorityChar c = true) : authorityFault? s = none := by
  have hno {c : Char} (hc : isAuthorityChar c = false) : s.contains c = false := by
    rw [List.contains_eq_mem, decide_eq_false_iff_not]
    intro hmem
    rw [h c hmem] at hc
    cases hc
  have hmarks : (s.any fun c => markVariants.contains c.toNat) = false := by
    rw [List.any_eq_false]
    intro c hc hmark
    have hascii : c.toNat < 0x80 := by
      have := h c hc
      simp only [isAuthorityChar, isAsciiChar, Bool.and_eq_true, decide_eq_true_eq] at this
      exact this.1.1.1
    have := markVariants_not_ascii _ (List.contains_iff_mem.mp hmark)
    omega
  rw [authorityFault?, hno (c := '[') (by decide), hno (c := ']') (by decide), hmarks]
  rfl

/-- What a user part or a host shows as it is may stand anywhere in an authority. -/
theorem isAuthorityChar_of_admits {part : Part} (hpart : part = .userinfo ∨ part = .host)
    {c : Char} (h : part.admits c = true) : isAuthorityChar c = true := by
  have hlt := toNat_lt_of_admits h
  have hascii : isAsciiChar c = true := decide_eq_true (by omega)
  have hplain : c ≠ '[' ∧ c ≠ ']' ∧ c ≠ '/' ∧ c ≠ '?' ∧ c ≠ '#' := by
    refine ⟨?_, ?_, ?_, ?_, ?_⟩ <;> rintro rfl <;> rcases hpart with rfl | rfl <;> cases h
  obtain ⟨hopen, hclose, hslash, hquestion, htag⟩ := hplain
  simp [isAuthorityChar, endsAuthority, hascii, hopen, hclose, hslash, hquestion, htag]

/-- A number is shown in characters that an authority may have. -/
theorem isAuthorityChar_of_mem_repr {n : ℤ} {c : Char} (h : c ∈ n.repr.toList) :
    isAuthorityChar c = true := by
  have hdigit {m : ℕ} {d : Char} (hd : d ∈ (Nat.repr m).toList) : isAuthorityChar d = true := by
    rw [Nat.toList_repr] at hd
    have hdecimal := Nat.isDigit_of_mem_toDigits (by decide) (by decide) hd
    rw [Char.isDigit, Bool.and_eq_true, decide_eq_true_eq, decide_eq_true_eq] at hdecimal
    have hdigits : ∀ n ≤ 57, 48 ≤ n → isAuthorityChar (Char.ofNat n) = true := by decide
    have hshown := hdigits d.toNat hdecimal.2 hdecimal.1
    rwa [Char.ofNat_toNat] at hshown
  cases n with
  | ofNat m => exact hdigit h
  | negSucc m =>
      have hminus : c = '-' ∨ c ∈ (Nat.repr (m + 1)).toList := by
        simpa [Int.repr] using h
      rcases hminus with rfl | hm
      · rfl
      · exact hdigit hm

/-- A host of printable ASCII characters, none of which is a mark of a URL: a name, or an address
without brackets. -/
def HasPlainHost (u : Url) : Prop := u.host ≠ "" ∧ ∀ c ∈ u.host.toList, Part.host.admits c = true

/-- Around a plain host an authority has characters that it may have anywhere. -/
theorem isAuthorityChar_of_mem_authority {url : Url} {user : List Char}
    (hhost : url.HasPlainHost) (huser : url.userinfo = String.ofList (quote .userinfo user))
    {c : Char} (h : c ∈ url.authority.toList) : isAuthorityChar c = true := by
  have hhostChar {d : Char} (hd : d ∈ url.host.toList) : isAuthorityChar d = true :=
    isAuthorityChar_of_admits (.inr rfl) (hhost.2 d hd)
  have huserChar {d : Char} (hd : d ∈ url.userinfo.toList) : isAuthorityChar d = true := by
    rw [huser, String.toList_ofList] at hd
    exact isAuthorityChar_of_admits (.inl rfl) (admits_of_mem_quote hd)
  have hbare : url.bracketedHost = url.host := by
    rw [bracketedHost, if_neg]
    rw [List.contains_iff_mem]
    intro hcolon
    cases hhost.2 ':' hcolon
  rw [authority, hostPort, hbare] at h
  simp only [String.toList_append, List.mem_append] at h
  rcases h with h | h | h
  · split at h
    · cases h
    · rw [String.toList_append, List.mem_append] at h
      rcases h with h | h
      · exact huserChar h
      · obtain rfl : c = '@' := by simpa using h
        rfl
  · exact hhostChar h
  · split at h
    · rw [String.toList_append, List.mem_append] at h
      rcases h with h | h
      · obtain rfl : c = ':' := by simpa using h
        rfl
      · exact isAuthorityChar_of_mem_repr h
    · cases h

/-! ### URLs that were read -/

/-- Components are added to those of a rooted path, whose first one is empty. -/
theorem getLast?_stepPath {kept : List (List Char)} (h : kept.getLast? = some [])
    (component : List Char) : (stepPath kept component).getLast? = some [] := by
  rw [stepPath]
  split
  · exact h
  · split
    · split
      · exact h
      · next hroot =>
          have hlong : ¬kept.length ≤ 1 := by
            intro hshort
            match kept, h with
            | [only], h =>
                obtain rfl := Option.some.inj h
                exact hroot rfl
            | _ :: _ :: _, _ => simp at hshort
          rw [List.getLast?_drop, if_neg hlong]
          exact h
    · cases kept with
      | nil => cases h
      | cons first kept => exact h

/-- A path that ends in an empty component still does after any further components. -/
theorem getLast?_foldl_stepPath {kept : List (List Char)} (h : kept.getLast? = some [])
    (components : List (List Char)) : (components.foldl stepPath kept).getLast? = some [] := by
  induction components generalizing kept with
  | nil => exact h
  | cons component components ih => exact ih (getLast?_stepPath h component)

/-- A path that can follow an authority still can when it is normalized. -/
theorem rooted_normalizePath {path : List Char} (h : Rooted path) :
    Rooted (normalizePath path) := by
  cases path with
  | nil => exact .inl rfl
  | cons c path =>
      obtain rfl : c = '/' := by simpa [Rooted] using h
      rw [normalizePath]
      split
      · have hsplit : ('/' :: path).splitOn '/' = [] :: path.splitOn '/' := by
          simp [List.splitOn, List.splitOnP_cons_eq_if_modifyHead]
        have hstep : stepPath [] [] = [[]] := rfl
        rw [hsplit, List.foldl_cons, hstep]
        have hroot : [([] : List Char)].getLast? = some [] := rfl
        have hlast := getLast?_foldl_stepPath hroot (path.splitOn '/')
        rw [← List.head?_reverse] at hlast
        match ((path.splitOn '/').foldl stepPath [[]]).reverse, hlast with
        | [_], rfl => exact .inl rfl
        | _ :: _ :: _, rfl => exact .inr rfl
      · exact .inr rfl

/-- What a URL shows that is put together around a host: its scheme in lower case, its user part
encoded, and an encoded path that can follow an authority. -/
theorem shown_of_assemble {scheme user host port path : List Char}
    {query fragment : Option (List Char)} {url : Url} (hhost : url.host ≠ "")
    (h : assemble scheme user host port path query fragment = .ok url) :
    url.scheme = String.ofList (scheme.map asciiLowerChar) ∧
      url.userinfo = String.ofList (quote .userinfo user) ∧
      ∃ shown, Rooted shown ∧ url.path = String.ofList (quote .path shown) := by
  rw [assemble] at h
  cases hname : encodeHost host with
  | error fault =>
      rw [hname] at h
      cases h
  | ok name =>
      cases hnumber : readPort scheme port with
      | error fault =>
          rw [hname, hnumber] at h
          cases h
      | ok number =>
          rw [hname, hnumber] at h
          simp only [bind, Except.bind] at h
          split at h
          · cases h
          · next hcheck =>
              cases h
              have hthere : name ≠ [] := by
                rintro rfl
                exact hhost rfl
              refine ⟨rfl, rfl, ?_⟩
              simp only [hthere, ne_eq, not_false_eq_true, decide_true, Bool.or_true,
                Bool.true_or] at hcheck ⊢
              refine ⟨_, rooted_normalizePath ?_, rfl⟩
              by_contra hunrooted
              rw [Rooted, not_or] at hunrooted
              rw [checkPath, if_pos rfl, if_pos hunrooted] at hcheck
              cases hcheck

/-- The characters of a scheme are ASCII. -/
theorem toNat_lt_of_isSchemeChar {c : Char} (h : isSchemeChar c = true) : c.toNat < 0x80 := by
  have hbelow {d : Char} (hd : d.toNat < 0x80) (hle : c ≤ d) : c.toNat < 0x80 :=
    Nat.lt_of_le_of_lt hle hd
  simp only [isSchemeChar, isLetter, Bool.or_eq_true, Bool.and_eq_true, decide_eq_true_eq] at h
  obtain ((((⟨-, hle⟩ | ⟨-, hle⟩) | ⟨-, hle⟩) | rfl) | rfl) | rfl := h
  · exact hbelow (by decide) hle
  · exact hbelow (by decide) hle
  · exact hbelow (by decide) hle
  all_goals decide

/-- Lower case keeps the characters of a scheme, and the letters among them. -/
theorem isSchemeChar_asciiLowerChar {c : Char} (h : isSchemeChar c = true) :
    isSchemeChar (asciiLowerChar c) = true ∧
      (isLetter c = true → isLetter (asciiLowerChar c) = true) := by
  have hascii : ∀ n < 0x80, isSchemeChar (Char.ofNat n) = true →
      isSchemeChar (asciiLowerChar (Char.ofNat n)) = true ∧
        (isLetter (Char.ofNat n) = true → isLetter (asciiLowerChar (Char.ofNat n)) = true) := by
    decide +kernel
  have hlower := hascii c.toNat (toNat_lt_of_isSchemeChar h)
  rw [Char.ofNat_toNat] at hlower
  exact hlower h

/-- A path that can follow an authority does so encoded, with a query and a fragment behind it. -/
theorem followsAuthority_of_rooted {shown : List Char} (h : Rooted shown)
    (query fragment : Option String) :
    FollowsAuthority (quote .path shown ++ (marked "?" query).toList ++
      (marked "#" fragment).toList) := by
  rcases h with rfl | h
  · cases query <;> cases fragment <;> simp [FollowsAuthority, quote, marked, endsAuthority]
  · cases shown with
    | nil => cases h
    | cons c shown =>
        obtain rfl := Option.some.inj h
        have hslash : quoteChar .path '/' = ['/'] := by decide
        simp [FollowsAuthority, quote, hslash, endsAuthority]

/-- **The text of a URL begins with an origin**, if it has a scheme and a plain host: its scheme
and its authority. -/
theorem exists_origin_of_read {text : String} {url : Url} (hread : Url.read text = .ok url)
    (hscheme : url.scheme ≠ "") (hhost : url.HasPlainHost) :
    ∃ (o : Origin) (tail : List Char), o.authority = url.authority.toList ∧
      (∀ c ∈ o.authority, isAuthorityChar c = true) ∧ FollowsAuthority tail ∧
      url.toText.toList = o.text ++ tail := by
  obtain ⟨hlength, hcontrol⟩ := bounds_of_read hread
  rw [Url.read] at hread
  dsimp only at hread
  rw [if_neg (Nat.not_lt.mpr hlength), findControl?_eq_none.mpr hcontrol] at hread
  obtain ⟨hlower, huser, shown, hshown, hpath⟩ := shown_of_assemble hhost.1 hread
  have hauthority {c : Char} (hc : c ∈ url.authority.toList) : isAuthorityChar c = true :=
    isAuthorityChar_of_mem_authority hhost huser hc
  rcases splitScheme_cases text.toList with hnone | ⟨scheme, rest, -, hchars, hinitial, hsplit⟩
  · rw [Parts.split, hnone] at hlower
    exact absurd hlower hscheme
  rw [Parts.split, hsplit] at hlower
  dsimp only at hlower
  cases scheme with
  | nil => exact absurd hlower hscheme
  | cons initial more =>
      let o : Origin :=
        { initial := asciiLowerChar initial
          more := more.map asciiLowerChar
          authority := url.authority.toList
          initial_isLetter :=
            (isSchemeChar_asciiLowerChar (hchars _ (by simp))).2 (hinitial _ rfl)
          more_isScheme := by
            rw [List.all_map, List.all_eq_true]
            exact fun c hc => (isSchemeChar_asciiLowerChar (hchars c (by simp [hc]))).1
          authority_open := by
            rw [List.all_eq_true]
            intro c hc
            have := hauthority hc
            simp only [isAuthorityChar, Bool.and_eq_true] at this
            exact this.2 }
      have hnamed : url.authority ≠ "" := by
        rw [authority, hostPort, bracketedHost]
        split <;> split <;> simp [hhost.1]
      refine ⟨o, quote .path shown ++ (marked "?" url.query).toList ++
        (marked "#" url.fragment).toList, rfl, fun c => hauthority,
        followsAuthority_of_rooted hshown url.query url.fragment, ?_⟩
      rw [toText, if_neg hscheme, if_neg hnamed, hlower, hpath]
      simp [o, Origin.text, Origin.scheme]

/-- **The jar takes a URL** that has a scheme and a plain host, whatever its user part, its port,
its path, its query and its fragment are. -/
theorem jarFault?_of_read {text : String} {url : Url} (hread : Url.read text = .ok url)
    (hscheme : url.scheme ≠ "") (hhost : url.HasPlainHost) : url.jarFault? = none := by
  obtain ⟨o, tail, -, hauthority, htail, htext⟩ := exists_origin_of_read hread hscheme hhost
  rw [jarFault?, htext, o.jarFaultOfText?_text htail]
  exact authorityFault?_of_isAuthorityChar hauthority

end AlertRelay.Url

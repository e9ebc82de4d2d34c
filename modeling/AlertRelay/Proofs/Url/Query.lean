import AlertRelay.Proofs.Text.Utf8
import AlertRelay.Proofs.Url.Origin

/-!
# Queries of URLs

The first question mark of a text that no number sign precedes begins the query. What stands before
it decides the scheme, the authority and the path; no part before the query can take the mark, since
it is no character of a scheme and ends an authority.

The query is then percent-encoded. Encoded text is made of characters that every part admits, the
percent sign and hexadecimal digits, and of those that its own part admits: it is ASCII, and a path
has no question mark. Decoding goes through it character by character. A percent sign in the text
would stay as it is and could be taken for the beginning of an encoded octet; without one, decoding
gives the octets of the text back.

## Main results

* `admits_of_mem_quote`: what is encoded has characters that its part admits only.
* `unquoteOctets_quote`: **percent-encoding is undone** for a text without a percent sign.
* `splitMark_target_of_read`: what a request asks for behind the question mark.
-/

namespace AlertRelay.Url

open Text

/-! ### Characters of encoded text -/

/-- A hexadecimal digit is read as its value. -/
theorem hexDigit?_hexDigit : ∀ n < 16, Number.hexDigit? (hexDigit n) = some n := by decide

/-- Every part admits hexadecimal digits. -/
theorem admits_hexDigit (part : Part) : ∀ n < 16, part.admits (hexDigit n) = true := by
  cases part <;> decide

/-- Every part admits the percent sign. -/
theorem admits_percent (part : Part) : part.admits '%' = true := by
  cases part <;> decide

/-- Every part admits what an octet is encoded to. -/
theorem admits_of_mem_quoteOctet (part : Part) {b : UInt8} {c : Char} (h : c ∈ quoteOctet b) :
    part.admits c = true := by
  have hbound := b.toNat_lt
  rcases List.mem_cons.mp h with rfl | h
  · exact admits_percent part
  · rcases List.mem_cons.mp h with rfl | h
    · exact admits_hexDigit part _ (by omega)
    · obtain rfl := List.mem_singleton.mp h
      exact admits_hexDigit part _ (by omega)

/-- What is encoded for a part has characters that the part admits only. -/
theorem admits_of_mem_quote {part : Part} {s : List Char} {c : Char} (h : c ∈ quote part s) :
    part.admits c = true := by
  obtain ⟨d, -, hc⟩ := List.mem_flatMap.mp h
  rw [quoteChar] at hc
  split at hc
  · next hadmits =>
      rwa [List.mem_singleton.mp hc]
  · obtain ⟨b, -, hb⟩ := List.mem_flatMap.mp hc
    exact admits_of_mem_quoteOctet part hb

/-- Parts admit ASCII characters only. -/
theorem toNat_lt_of_admits {part : Part} {c : Char} (h : part.admits c = true) :
    c.toNat < 0x7f := by
  simp only [Part.admits, Bool.and_eq_true, decide_eq_true_eq] at h
  exact h.1.2

/-- What is encoded is ASCII. -/
theorem isAsciiChar_of_mem_quote {part : Part} {s : List Char} {c : Char} (h : c ∈ quote part s) :
    isAsciiChar c = true := by
  have hlt := toNat_lt_of_admits (admits_of_mem_quote h)
  exact decide_eq_true (by omega)

/-- A path has no question mark. -/
theorem questionMark_notMem_quote_path (s : List Char) : '?' ∉ quote .path s := by
  intro h
  have hadmits := admits_of_mem_quote h
  cases hadmits

/-! ### Decoding -/

/-- A character that is no percent sign stands for its own octet. -/
theorem unquoteOctets_cons {c : Char} (h : c ≠ '%') (rest : List Char) :
    unquoteOctets (c :: rest) = UInt8.ofNat c.toNat :: unquoteOctets rest := by
  rw [unquoteOctets]
  rintro _ _ _ rfl
  exact absurd rfl h

/-- An octet that is encoded is decoded to itself. -/
theorem unquoteOctets_quoteOctet (b : UInt8) (rest : List Char) :
    unquoteOctets (quoteOctet b ++ rest) = b :: unquoteOctets rest := by
  have hbound := b.toNat_lt
  have hvalue : 16 * (b.toNat / 16) + b.toNat % 16 = b.toNat := by omega
  simp only [quoteOctet, List.cons_append, List.nil_append]
  rw [unquoteOctets, hexDigit?_hexDigit _ (by omega), hexDigit?_hexDigit _ (by omega)]
  simp only [hvalue, UInt8.ofNat_toNat]

/-- So are octets in a row. -/
theorem unquoteOctets_quoteOctets (octets : Octets) (rest : List Char) :
    unquoteOctets (octets.flatMap quoteOctet ++ rest) = octets ++ unquoteOctets rest := by
  induction octets with
  | nil => rfl
  | cons b octets ih =>
      rw [List.flatMap_cons, List.append_assoc, unquoteOctets_quoteOctet, ih, List.cons_append]

/-- A character that is encoded is decoded to its octets. -/
theorem unquoteOctets_quoteChar (part : Part) {c : Char} (h : c ≠ '%') (rest : List Char) :
    unquoteOctets (quoteChar part c ++ rest) = String.utf8EncodeChar c ++ unquoteOctets rest := by
  rw [quoteChar]
  split
  · next hadmits =>
      have hlt := toNat_lt_of_admits hadmits
      have hoctet : (UInt8.ofNat c.toNat).toNat = c.val.toNat :=
        UInt8.toNat_ofNat'.trans (Nat.mod_eq_of_lt (by omega))
      have hone : String.utf8EncodeChar c = [UInt8.ofNat c.toNat] :=
        encodeChar_one (show c.toNat < 0x80 by omega) hoctet
      rw [hone, List.singleton_append, List.singleton_append, unquoteOctets_cons h]
  · exact unquoteOctets_quoteOctets _ _

/-- **Percent-encoding is undone** by decoding, for a text without a percent sign: the octets are
those of the text. -/
theorem unquoteOctets_quote (part : Part) {s : List Char} (h : '%' ∉ s) :
    unquoteOctets (quote part s) = s.flatMap String.utf8EncodeChar := by
  induction s with
  | nil => simp [quote, unquoteOctets]
  | cons c s ih =>
      obtain ⟨hc, hs⟩ := not_or.mp (mt List.mem_cons.mpr h)
      rw [quote, List.flatMap_cons, unquoteOctets_quoteChar part (Ne.symm hc), ← quote, ih hs,
        List.flatMap_cons]

/-! ### Splitting at the question mark -/

/-- A text is split at the first mark. -/
theorem splitMark_append_cons {mark : Char} {front : List Char} (h : mark ∉ front)
    (rest : List Char) : splitMark mark (front ++ mark :: rest) = (front, some rest) := by
  have hfront : ∀ c ∈ front, decide (c ≠ mark) = true := fun c hc =>
    decide_eq_true fun heq => h (heq ▸ hc)
  rw [splitMark, List.takeWhile_append_of_pos hfront, List.dropWhile_append_of_pos hfront,
    List.takeWhile_cons_of_neg (by simp), List.dropWhile_cons_of_neg (by simp), List.append_nil]

/-- A text without the mark is not split. -/
theorem splitMark_of_notMem {mark : Char} {s : List Char} (h : mark ∉ s) :
    splitMark mark s = (s, none) := by
  have hall : ∀ c ∈ s, decide (c ≠ mark) = true := fun c hc =>
    decide_eq_true fun heq => h (heq ▸ hc)
  rw [splitMark, List.takeWhile_eq_self_iff.mpr hall, List.dropWhile_eq_nil_iff.mpr hall]

/-- What is dropped in front of a mark that ends it lies before the mark. -/
theorem dropWhile_append_cons {p : Char → Bool} {mark : Char} (h : p mark = false)
    (front rest : List Char) :
    (front ++ mark :: rest).dropWhile p = front.dropWhile p ++ mark :: rest := by
  induction front with
  | nil => exact List.dropWhile_cons_of_neg (by simp [h])
  | cons c front ih =>
      rw [List.cons_append, List.dropWhile_cons, List.dropWhile_cons]
      split
      · exact ih
      · rfl

/-- A scheme is split off with its colon, or there is none. Its first character is a letter. -/
theorem splitScheme_cases (s : List Char) :
    splitScheme s = ([], s) ∨
      ∃ scheme rest, s = scheme ++ ':' :: rest ∧ (∀ c ∈ scheme, isSchemeChar c = true) ∧
        (∀ c, scheme.head? = some c → isLetter c = true) ∧ splitScheme s = (scheme, rest) := by
  cases s with
  | nil => exact .inl rfl
  | cons c s =>
      rw [splitScheme]
      by_cases hcolon : c = ':'
      · rw [if_pos hcolon]
        exact .inr ⟨[], s, by rw [hcolon]; rfl, List.forall_mem_nil _, by simp, rfl⟩
      rw [if_neg hcolon]
      by_cases hletter : isLetter c = true
      · rw [if_pos hletter]
        split
        · next rest hrest =>
            refine .inr ⟨_, rest, ?_, fun d hd => List.mem_takeWhile_imp hd, ?_, rfl⟩
            · rw [← hrest, List.takeWhile_append_dropWhile]
            · have hscheme : isSchemeChar c = true := by simp [isSchemeChar, hletter]
              rw [List.takeWhile_cons_of_pos hscheme]
              rintro d ⟨⟩
              exact hletter
        · exact .inl rfl
      · rw [if_neg hletter]
        exact .inl rfl

/-- A scheme lies before the question mark. -/
theorem splitScheme_append_cons (front query : List Char) :
    ∃ scheme behind, splitScheme (front ++ '?' :: query) = (scheme, behind ++ '?' :: query) ∧
      behind <:+ front := by
  rcases splitScheme_cases (front ++ '?' :: query) with
    hnone | ⟨scheme, rest, htext, hchars, -, hsplit⟩
  · exact ⟨[], front, hnone, List.suffix_refl _⟩
  rw [hsplit]
  rcases List.append_eq_append_iff.mp htext with ⟨tail, rfl, htail⟩ | ⟨tail, rfl, htail⟩
  -- A colon behind the question mark ends no scheme, since the mark is no character of one.
  · cases tail with
    | nil => cases htail
    | cons c tail =>
        obtain ⟨rfl, -⟩ := List.cons.inj htail
        cases hchars '?' (by simp)
  · cases tail with
    | nil => cases htail
    | cons c tail =>
        obtain ⟨rfl, rfl⟩ := List.cons.inj htail
        exact ⟨scheme, tail, rfl, (List.suffix_cons _ _).trans (List.suffix_append _ _)⟩

/-- An authority lies before the question mark. -/
theorem splitSlashes_append_cons (front query : List Char) :
    ∃ authority behind,
      splitSlashes (front ++ '?' :: query) = (authority, behind ++ '?' :: query) ∧
        behind <:+ front := by
  rw [splitSlashes.eq_def]
  split
  · next rest hrest =>
      rcases List.append_eq_cons_iff.mp hrest with ⟨-, hmark⟩ | ⟨front, rfl, hfront⟩
      · cases hmark
      rcases List.append_eq_cons_iff.mp hfront.symm with ⟨-, hmark⟩ | ⟨front, rfl, rfl⟩
      · cases hmark
      rw [dropWhile_append_cons (show (!endsAuthority '?') = false from rfl)]
      refine ⟨_, _, rfl, (List.dropWhile_suffix _).trans ?_⟩
      exact (List.suffix_cons _ _).trans (List.suffix_cons _ _)
  · exact ⟨[], front, rfl, List.suffix_refl _⟩

/-- **Where the query lies.** The first question mark of a text without a number sign begins the
query, and there is no fragment. -/
theorem split_append_cons {front query : List Char} (hmark : '?' ∉ front) (hfront : '#' ∉ front)
    (hquery : '#' ∉ query) :
    ∃ scheme authority path,
      Parts.split (front ++ '?' :: query) = ⟨scheme, authority, path, some query, none⟩ := by
  obtain ⟨scheme, behind, hscheme, hbehind⟩ := splitScheme_append_cons front query
  obtain ⟨authority, path, hauthority, hpath⟩ := splitSlashes_append_cons behind query
  have hsubset : path ⊆ front := (hpath.trans hbehind).subset
  have hfragment : '#' ∉ path ++ '?' :: query := by
    simp [hquery, mt (hsubset ·) hfront]
  refine ⟨scheme, authority, path, ?_⟩
  simp only [Parts.split, hscheme, hauthority, splitMark_of_notMem hfragment,
    splitMark_append_cons (mt (hsubset ·) hmark)]

/-! ### Reading -/

/-- The path and the query of a URL that is put together from parts. -/
theorem path_query_of_assemble {scheme user host port path : List Char}
    {query fragment : Option (List Char)} {url : Url}
    (h : assemble scheme user host port path query fragment = .ok url) :
    (∃ shown, url.path = String.ofList (quote .path shown)) ∧
      url.query = query.map fun q => String.ofList (quote .query q) := by
  rw [assemble] at h
  cases hhost : encodeHost host with
  | error fault =>
      rw [hhost] at h
      cases h
  | ok name =>
      cases hport : readPort scheme port with
      | error fault =>
          rw [hhost, hport] at h
          cases h
      | ok number =>
          rw [hhost, hport] at h
          simp only [bind, Except.bind] at h
          split at h
          · cases h
          · cases h
            exact ⟨⟨_, rfl⟩, rfl⟩

/-- A URL that is read from a text without a number sign asks behind the question mark for the
percent-encoded query. -/
theorem splitMark_target_of_read {text : String} {front query : List Char} {url : Url}
    (htext : text.toList = front ++ '?' :: query) (hmark : '?' ∉ front) (hfront : '#' ∉ front)
    (hquery : '#' ∉ query) (hread : Url.read text = .ok url) :
    (splitMark '?' url.target.toList).2 = some (quote .query query) := by
  obtain ⟨scheme, authority, path, hsplit⟩ := split_append_cons hmark hfront hquery
  obtain ⟨hlength, hcontrol⟩ := bounds_of_read hread
  rw [Url.read] at hread
  dsimp only at hread
  rw [if_neg (Nat.not_lt.mpr hlength), findControl?_eq_none.mpr hcontrol, htext, hsplit] at hread
  obtain ⟨⟨shown, hpath⟩, hasked⟩ := path_query_of_assemble hread
  have hplain : '?' ∉ (if url.path = "" then "/" else url.path).toList := by
    split
    · decide
    · rw [hpath, String.toList_ofList]
      exact questionMark_notMem_quote_path shown
  have htarget : url.target.toList =
      (if url.path = "" then "/" else url.path).toList ++ '?' :: quote .query query := by
    rw [target, hasked]
    simp [marked]
  rw [htarget, splitMark_append_cons hplain]

end AlertRelay.Url

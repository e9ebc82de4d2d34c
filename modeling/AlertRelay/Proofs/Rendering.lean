import AlertRelay.Proofs.Text.Replacement
import AlertRelay.Template

/-!
# Rendering as a Substitution

A template is rendered by five replacements, one after the other, each of which scans all that
the earlier ones have left. For texts that are **clean** this amounts to one substitution: the
segments of the template stay where they are, and each token becomes its own value, in which
only the tokens of higher **rank** have been replaced in turn. A token of the same or of a
lower rank within a value stays as it is spelled.

Cleanness is what keeps the passes apart. A pass puts the segments of a value for a token, and
where no literal part ends open, the segments that result are those of the text that the next
pass scans. The value of the last token need not be clean, since no pass follows.

## Main results

* `Token.expansion_eq`: what a token becomes, by what its value contains.
* `Token.toList_replaceAll`: the passes from one rank on, on any clean text.
* `Token.toList_replaceAll_append_cons`: the passes on a text that begins without a token.
* `Template.render_eq_expand`: rendering expands every place of a template.
-/

namespace AlertRelay

open Text

namespace Token

/-! ### Tokens as marks -/

/-- The place of a token in the order of replacement. -/
def rank (t : Token) : ℕ := all.idxOf t

/-- The placeholder that spells a token. -/
def placeholder (t : Token) : Placeholder where
  name := t.label.toList
  plain := by
    have hall : t.label.toList.all (fun c => c ≠ '[' && c ≠ ']') = true := by
      cases t <;> decide
    simpa using hall

/-- The five tokens as the marks of a text. -/
def vocabulary : Vocabulary Token where
  marks := all
  complete := by intro t; cases t <;> decide
  placeholder := placeholder
  placeholder_injective := by
    intro s t h
    have hname : s.label.toList = t.label.toList := congrArg Placeholder.name h
    cases s <;> cases t <;> first | rfl | exact absurd hname (by decide)

/-- The text of a token is the spelling of its mark. -/
theorem toList_spelling (t : Token) : t.spelling.toList = vocabulary.spelling t := by
  cases t <;> decide

/-- There are five tokens. -/
theorem rank_lt (t : Token) : t.rank < 5 := by
  cases t <;> decide

/-- What a token becomes: its value, in which every token of higher rank has become what it
becomes, and every other token stays as it is spelled. -/
def expansion (value : Token → String) (t : Token) : List Char :=
  (vocabulary.split (value t).toList).fill fun u =>
    if t.rank < u.rank then u.expansion value else vocabulary.spelling u
termination_by 5 - t.rank
decreasing_by
  have := u.rank_lt
  omega

/-- A text with its literal parts kept and every token expanded. -/
def expand (value : Token → String) (s : String) : String :=
  String.ofList ((vocabulary.split s.toList).fill (expansion value))

/-- A text none of whose literal parts ends in the beginning of a token. -/
def Clean (s : String) : Prop := vocabulary.Clean s.toList

instance (s : String) : Decidable (Clean s) :=
  inferInstanceAs (Decidable (vocabulary.Clean s.toList))

/-! ### The passes over one text -/

/-- A text after the passes for some tokens, in order. -/
def replaceAll (value : Token → String) (tokens : List Token) (s : String) : String :=
  tokens.foldl (fun s t => replace t.spelling (value t) s) s

/-- One pass fills its token with its value. -/
theorem toList_replace (value : Token → String) (t : Token) (s : String) :
    (replace t.spelling (value t) s).toList =
      (vocabulary.split s.toList).fill fun u =>
        if u = t then (value t).toList else vocabulary.spelling u := by
  rw [replace, String.toList_ofList, toList_spelling, replaceChars_eq_fill_split]

/-- A clean value in the place of a token leaves a clean text clean. -/
theorem Clean.replace {value : Token → String} {t : Token} {s : String} (hs : Clean s)
    (hvalue : Clean (value t)) : Clean (Text.replace t.spelling (value t) s) := by
  rw [Clean, Text.replace, String.toList_ofList, toList_spelling]
  exact Vocabulary.Clean.replaceChars hs hvalue t

/-- The tokens after a token in the order of replacement are those of higher rank. -/
theorem mem_iff_rank_lt {t u : Token} {later : List Token} (h : t :: later <:+ all) :
    u ∈ later ↔ t.rank < u.rank := by
  have hall : ∀ l ∈ all.tails, ∀ t ∈ l.head?, ∀ u ∈ all, (u ∈ l.tail ↔ t.rank < u.rank) := by
    decide
  exact hall (t :: later) ((List.mem_tails _ _).mpr h) t rfl u (vocabulary.complete u)

/-- The expansion of a token, by the tokens that come after it in their order. -/
theorem expansion_eq (value : Token → String) {t : Token} {later : List Token}
    (h : t :: later <:+ all) :
    t.expansion value = (vocabulary.split (value t).toList).fill fun u =>
      if u ∈ later then u.expansion value else vocabulary.spelling u := by
  rw [expansion]
  congr 1
  funext u
  simp only [mem_iff_rank_lt h]

/-- **The passes are one substitution.** The passes for the tokens from one rank on expand these
tokens in a clean text and leave the others as they are spelled. -/
theorem toList_replaceAll {value : Token → String} (hvalue : ∀ t ≠ state, Clean (value t))
    {tokens : List Token} (htokens : tokens <:+ all) {s : String} (hs : Clean s) :
    (replaceAll value tokens s).toList =
      (vocabulary.split s.toList).fill fun u =>
        if u ∈ tokens then u.expansion value else vocabulary.spelling u := by
  induction tokens generalizing s with
  | nil => simp [replaceAll, vocabulary.fill_split]
  | cons t later ih =>
      have hlater : later <:+ all := (List.suffix_cons t later).trans htokens
      rw [replaceAll, List.foldl_cons, ← replaceAll]
      by_cases hstate : t = state
      · -- Nothing is replaced after the state, so its value may be any text.
        have hnil : later = [] := by
          refine List.eq_nil_iff_forall_not_mem.mpr fun u hu => ?_
          have hrank := (mem_iff_rank_lt htokens).mp hu
          have hlt := u.rank_lt
          rw [hstate, show state.rank = 4 from rfl] at hrank
          omega
        subst hnil
        rw [replaceAll, List.foldl_nil, toList_replace]
        congr 1
        funext u
        by_cases hu : u = t
        · subst hu
          simp [expansion_eq value htokens, vocabulary.fill_split]
        · simp [hu]
      · have hclean := hvalue t hstate
        rw [ih hlater (hs.replace hclean), Text.replace, String.toList_ofList, toList_spelling,
          vocabulary.split_replaceChars hs hclean, Segments.fill_bind]
        congr 1
        funext u
        rw [vocabulary.fill_image]
        by_cases hu : u = t
        · subst hu
          simp [expansion_eq value htokens]
        · simp [hu]

/-- Replacing all tokens in order expands them. -/
theorem replaceAll_all {value : Token → String} (hvalue : ∀ t ≠ state, Clean (value t))
    {s : String} (hs : Clean s) : replaceAll value all s = expand value s := by
  rw [expand, ← String.ofList_toList (s := replaceAll value all s),
    toList_replaceAll hvalue (List.suffix_refl _) hs]
  have hall : ∀ u : Token, u ∈ all := vocabulary.complete
  simp only [hall, if_true]

/-! ### Passes behind a mark -/

section

variable {front : List Char} {mark : Char}

/-- A pass goes over a text without its token and over a mark that its token does not have. -/
theorem toList_replace_append_cons {t : Token} (hfront : ¬t.spelling.toList <:+: front)
    (hmark : mark ∉ t.spelling.toList) (value : String) {s rest : String}
    (hs : s.toList = front ++ mark :: rest.toList) :
    (Text.replace t.spelling value s).toList =
      front ++ mark :: (Text.replace t.spelling value rest).toList := by
  rw [toList_spelling] at hfront hmark
  rw [Text.replace, Text.replace, String.toList_ofList, String.toList_ofList, toList_spelling, hs]
  exact replaceChars_append_cons_of_notMem hfront hmark

/-- **The passes act behind a mark** that no token has, if there is no token before it. -/
theorem toList_replaceAll_append_cons (hfront : ∀ t : Token, ¬t.spelling.toList <:+: front)
    (hmark : ∀ t : Token, mark ∉ t.spelling.toList) (value : Token → String) (tokens : List Token)
    {s rest : String} (hs : s.toList = front ++ mark :: rest.toList) :
    (replaceAll value tokens s).toList =
      front ++ mark :: (replaceAll value tokens rest).toList := by
  induction tokens generalizing s rest with
  | nil => exact hs
  | cons t tokens ih => exact ih (toList_replace_append_cons (hfront t) (hmark t) (value t) hs)

end

end Token

/-! ### The places of a template -/

namespace Template

/-- Replacements run in the url, in the body and in every header value on their own. -/
theorem foldl_replace_places {ι : Type} (old new : ι → String) (steps : List ι) (t : Template) :
    steps.foldl (fun t i => t.replace (old i) (new i)) t =
      { t with
        url := steps.foldl (fun s i => Text.replace (old i) (new i) s) t.url
        body := steps.foldl (fun s i => Text.replace (old i) (new i) s) t.body
        headers := t.headers.mapValues fun value =>
          steps.foldl (fun s i => Text.replace (old i) (new i) s) value } := by
  induction steps generalizing t with
  | nil => simp [Table.mapValues]
  | cons i steps ih =>
      rw [List.foldl_cons, ih]
      simp [replace, Table.mapValues]

/-- The passes for some tokens, place by place. -/
theorem foldl_replace (value : Token → String) (tokens : List Token) (t : Template) :
    tokens.foldl (fun t token => t.replace token.spelling (value token)) t =
      { t with
        url := Token.replaceAll value tokens t.url
        body := Token.replaceAll value tokens t.body
        headers := t.headers.mapValues (Token.replaceAll value tokens) } :=
  foldl_replace_places Token.spelling value tokens t

/-- **Rendering is a substitution.** Where the places of a template and all values but the word
for the state are clean, every token of a place becomes its expansion and all else stays: the
literal parts, the names and the order of the headers, and the method. -/
theorem render_eq_expand (placeholders : Remap) (target : Target) (t : Template)
    (hurl : Token.Clean t.url) (hbody : Token.Clean t.body)
    (hheaders : ∀ h ∈ t.headers, Token.Clean h.2)
    (hdescription : Token.Clean target.alert.descriptionText)
    (hname : Token.Clean target.endpoint.name) (hgroup : Token.Clean target.endpoint.group)
    (haddress : Token.Clean target.endpoint.url) :
    (t.render placeholders target).url =
        Token.expand (Token.value placeholders target) t.url ∧
      (t.render placeholders target).body =
        Token.expand (Token.value placeholders target) t.body ∧
      (t.render placeholders target).headers =
        t.headers.map (fun h => (h.1, Token.expand (Token.value placeholders target) h.2)) ∧
      (t.render placeholders target).method = t.method := by
  have hvalue : ∀ u ≠ Token.state, Token.Clean (Token.value placeholders target u) := by
    intro u hu
    cases u with
    | description => exact hdescription
    | name => exact hname
    | group => exact hgroup
    | url => exact haddress
    | state => exact absurd rfl hu
  rw [render, foldl_replace]
  refine ⟨Token.replaceAll_all hvalue hurl, Token.replaceAll_all hvalue hbody, ?_, rfl⟩
  refine List.map_congr_left fun h hh => ?_
  rw [Token.replaceAll_all hvalue (hheaders h hh)]

/-- A later token within an earlier value is expanded; an earlier one within a later value
stays. -/
theorem render_eq_expand_nested :
    let target : Target :=
      { endpoint := { name := "[ALERT_DESCRIPTION]x", url := "https://svc" }
        alert := { description := some "down: [ENDPOINT_URL] of [ENDPOINT_NAME]" }
        resolved := true }
    let t : Template :=
      { url := "https://h/[ENDPOINT_GROUP]?[ALERT_TRIGGERED_OR_RESOLVED]"
        body := "<[ALERT_DESCRIPTION]]"
        headers := [("X", "[ENDPOINT_NAME]"), ("x", "")] }
    let words : Remap := [("ALERT_TRIGGERED_OR_RESOLVED", [("RESOLVED", "ok [")])]
    (t.render words target).url = "https://h/?ok [" ∧
      (t.render words target).body = "<down: https://svc of [ALERT_DESCRIPTION]x]" ∧
      (t.render words target).headers = [("X", "[ALERT_DESCRIPTION]x"), ("x", "")] ∧
      (t.render words target).method = "" := by
  intro target t words
  obtain ⟨hurl, hbody, hheaders, hmethod⟩ := render_eq_expand words target t (by decide) (by decide)
    (by decide) (by decide) (by decide) (by decide) (by decide)
  refine ⟨hurl.trans ?_, hbody.trans ?_, hheaders.trans ?_, hmethod⟩
  · decide +kernel
  · decide +kernel
  · decide +kernel

end Template

/-! ### The places of a configuration -/

/-- A text of a configuration with its tokens replaced. -/
def Config.renderText (config : Config) (target : Target) (s : String) : String :=
  Token.replaceAll (Token.value config.placeholders target) Token.all s

/-- Rendering replaces the tokens of each place on its own, and keeps the method and the names of
the headers. -/
theorem Config.render_eq (config : Config) (target : Target) :
    config.render target =
      { url := config.renderText target config.url
        method := config.method
        body := config.renderText target config.body
        headers := config.headers.mapValues (config.renderText target) } :=
  Template.foldl_replace _ _ _

end AlertRelay

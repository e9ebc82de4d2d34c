import AlertRelay.Proofs.Send.Origin
import AlertRelay.Proofs.Url.Query

/-!
# What Is Asked For

A configuration may name values in the query of its URL. No token has a question mark, so the one
that begins the query of the template begins that of the rendered URL too, and the tokens behind it
are replaced as they would be in the query alone. Its values may have any characters: blanks,
quotes, further question marks and characters of any script are percent-encoded or travel as they
are. Only a number sign would end the query, and only a percent sign could be mistaken for the
encoding of something else.

## Main results

* `Config.toList_render_url`: the query is rendered on its own.
* `Config.query_of_request`: **a query reaches the remote side unchanged.**
-/

namespace AlertRelay

open Http Text

namespace Config

variable {c : Config} {front query : String}

/-- The query of a template is rendered on its own. -/
theorem toList_render_url (hurl : c.url = front ++ "?" ++ query)
    (htokens : ∀ t : Token, ¬t.spelling.toList <:+: front.toList) (target : Target) :
    (c.render target).url.toList = front.toList ++ '?' :: (c.renderText target query).toList := by
  have hmark : ∀ t : Token, '?' ∉ t.spelling.toList := fun t hmem =>
    absurd (t.endsAuthority_of_mem_spelling '?' hmem) (by decide)
  have hsplit : c.url.toList = front.toList ++ '?' :: query.toList := by
    simp [hurl]
  rw [render_eq]
  exact Token.toList_replaceAll_append_cons htokens hmark _ _ hsplit

/-- **A query reaches the remote side unchanged.** Let the URL of a configuration have no token, no
question mark and no number sign before the mark that begins its query, and let the rendered query
have no number sign and no percent sign. Then the rendered URL is what stands before the mark, the
mark and the rendered query, and a request that is built asks behind its first question mark for a
text of ASCII characters that encodes exactly the octets of the rendered query. -/
theorem query_of_request {target : Target} {r : Request} (hurl : c.url = front ++ "?" ++ query)
    (htokens : ∀ t : Token, ¬t.spelling.toList <:+: front.toList) (hmark : '?' ∉ front.toList)
    (hfront : '#' ∉ front.toList) (hquery : '#' ∉ (c.renderText target query).toList)
    (hpercent : '%' ∉ (c.renderText target query).toList)
    (hrequest : c.request target = .ok r) :
    (c.render target).url = front ++ "?" ++ c.renderText target query ∧
      ∃ asked, (Url.splitMark '?' r.url.target.toList).2 = some asked ∧
        (∀ ch ∈ asked, isAsciiChar ch = true) ∧
        Url.unquoteOctets asked = encode (c.renderText target query) := by
  have hrendered := toList_render_url hurl htokens target
  refine ⟨?_, Url.quote .query (c.renderText target query).toList, ?_, ?_, ?_⟩
  · refine String.toList_injective ?_
    rw [hrendered]
    simp
  · exact Url.splitMark_target_of_read hrendered hmark hfront hquery (read_of_request hrequest)
  · exact fun ch hch => Url.isAsciiChar_of_mem_quote hch
  · exact Url.unquoteOctets_quote .query hpercent

/-- A value with quotes, with a mark of a query and with a token for more of them. -/
theorem query_of_request_marks :
    let c : Config := { url := "http://h/p?q=[ENDPOINT_NAME]" }
    let target : Target :=
      { endpoint := { name := "é \"a\"+?[ENDPOINT_GROUP]", group := "<b>" }
        alert := {}
        resolved := false }
    ∃ r, c.request target = .ok r ∧ (c.render target).url = "http://h/p?q=é \"a\"+?<b>" ∧
      ∃ asked, (Url.splitMark '?' r.url.target.toList).2 = some asked ∧
        (∀ ch ∈ asked, isAsciiChar ch = true) ∧
        Url.unquoteOctets asked = encode "q=é \"a\"+?<b>" := by
  intro c target
  have hquery : c.renderText target "q=[ENDPOINT_NAME]" = "q=é \"a\"+?<b>" := by decide +kernel
  have hbuilds : (c.request target).isOk = true := by decide +kernel
  cases hrequest : c.request target with
  | error failure =>
      rw [hrequest] at hbuilds
      cases hbuilds
  | ok r =>
      have hurl : c.url = "http://h/p" ++ "?" ++ "q=[ENDPOINT_NAME]" := rfl
      have htokens : ∀ t : Token, ¬t.spelling.toList <:+: "http://h/p".toList := by
        intro t
        cases t <;> decide
      obtain ⟨hrendered, hasked⟩ := query_of_request hurl htokens (by decide) (by decide)
        (by rw [hquery]; decide) (by rw [hquery]; decide) hrequest
      rw [hquery] at hrendered hasked
      exact ⟨r, rfl, hrendered, hasked⟩

end Config

end AlertRelay

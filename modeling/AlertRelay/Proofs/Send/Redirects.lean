import AlertRelay.Sender
import Mathlib.Tactic.Common

/-!
# Chains of Redirects

`fetch` sends a request and, after each redirect that its client follows, the next one. This
module describes its failures by a relation. `Reaches c n request w last w'` says that the
client `c`, sending `request` in the world `w`, follows `n` redirects one after the other and
then stands in the world `w'` with the request `last` to send. `Stops c last w' failure` says
that the reply to this request ends the chain with a failure: the connection fails, the
response is **refused**, or a redirect that is to be followed breaks off.

A response is refused for the URL that was asked for, which the jar of the client may not take,
or for the location that it redirects to. The location is examined in every response that
redirects, also where the client does not follow redirects, so a refusal can end any send.

## Main results

* `refusal?_eq_some`: the two reasons for which a response is refused.
* `fetch_of_reaches`: a chain of redirects that were followed leaves the rest of the budget.
* `fetch_error_iff`: **the failures of a fetch** are those at which a chain within the budget
  stops, and a chain that exceeds the budget.
-/

namespace AlertRelay

open Http

/-! ### Refusals -/

/-- Why the location of a response is refused: no next request can be made from it. -/
def locationRefusal? (request : Request) (response : Response) : Option Failure :=
  match response.location? with
  | none => none
  | some location =>
      match redirect request response.status location with
      | .error failure => some failure
      | .ok _ => none

/-- Why the response to a request is refused: the jar of the client does not take the URL of the
request, or the location of the response is refused. -/
def refusal? (request : Request) (response : Response) : Option Failure :=
  match request.url.jarFault? with
  | some fault => some (.jar fault)
  | none => locationRefusal? request response

/-- A location is refused where there is one from which no next request can be made. -/
theorem locationRefusal?_eq_some {request : Request} {response : Response} {failure : Failure} :
    locationRefusal? request response = some failure ↔
      ∃ location, response.location? = some location ∧
        redirect request response.status location = .error failure := by
  rw [locationRefusal?]
  cases response.location? with
  | none => simp
  | some location =>
      cases hredirect : redirect request response.status location <;> simp [hredirect]

/-- A response is refused for the URL of its request, or else for its location. -/
theorem refusal?_eq_some {request : Request} {response : Response} {failure : Failure} :
    refusal? request response = some failure ↔
      (∃ fault, request.url.jarFault? = some fault ∧ failure = .jar fault) ∨
        request.url.jarFault? = none ∧ ∃ location, response.location? = some location ∧
          redirect request response.status location = .error failure := by
  rw [refusal?]
  cases request.url.jarFault? with
  | none => simp [locationRefusal?_eq_some]
  | some fault => simp [eq_comm]

/-- The jar looks at the request only. -/
theorem refusal?_of_jarFault {request : Request} {fault : Url.JarFault}
    (h : request.url.jarFault? = some fault) (response : Response) :
    refusal? request response = some (.jar fault) := by
  rw [refusal?, h]

section

variable {ε α β : Type} {failure : ε}

/-- What succeeds does not fail. -/
theorem ok_ne_error (a : α) : (Except.ok a : Except ε α) ≠ .error failure := fun h => nomatch h

/-- A failure that the later step does not have is the one of the first step. -/
theorem bind_eq_error_iff {x : Except ε α} {next : α → Except ε β}
    (hnext : ∀ a, next a ≠ .error failure) :
    (x >>= next) = .error failure ↔ x = .error failure := by
  cases x with
  | error other =>
      exact ⟨fun h => congrArg Except.error (Except.error.inj h),
        fun h => congrArg Except.error (Except.error.inj h)⟩
  | ok a => exact iff_of_false (hnext a) (ok_ne_error a)

/-- A failure that neither of two steps can end with is not one of both. -/
theorem bind_ne_error {x : Except ε α} {next : α → Except ε β} (hx : x ≠ .error failure)
    (hnext : ∀ a, next a ≠ .error failure) : (x >>= next) ≠ .error failure :=
  (bind_eq_error_iff hnext).not.mpr hx

/-- A failure that no step can end with is not one of a row of them. -/
theorem mapM_ne_error {step : α → Except ε β} (hstep : ∀ a, step a ≠ .error failure)
    (l : List α) : l.mapM step ≠ .error failure := by
  induction l with
  | nil => exact ok_ne_error []
  | cons a l ih =>
      rw [List.mapM_cons]
      exact bind_ne_error (hstep a) fun b => bind_ne_error ih fun bs => ok_ne_error (b :: bs)

/-- A function that is applied to a result brings no failure. -/
theorem map_ne_error {x : Except ε α} (f : α → β) (hx : x ≠ .error failure) :
    x.map f ≠ .error failure := by
  cases x with
  | error other => exact fun h => hx (congrArg Except.error (Except.error.inj h))
  | ok a => exact ok_ne_error (f a)

end

/-- Faults that become failures of another kind do not become this one. -/
theorem mapError_ne_error {ε α : Type} {kind : ε → Failure} {failure : Failure}
    (hkind : ∀ fault, kind fault ≠ failure) (x : Except ε α) :
    x.mapError kind ≠ .error failure := by
  cases x with
  | error fault => exact fun h => hkind fault (Except.error.inj h)
  | ok a => exact ok_ne_error a

/-- A failure that making the next request of a redirect cannot have: it is about a connection, a
client or a response, and not about a text. -/
def Http.Failure.isOutsideRedirect : Failure → Bool
  | .transport _ | .jar _ | .tooManyRedirects | .clientClosed | .rejected .. => true
  | .url _ | .notAscii _ | .host _ | .location _ => false

section

variable {failure : Failure} (h : failure.isOutsideRedirect = true)

include h

/-- A failure that a redirect can end with is another one. -/
theorem ne_of_isOutsideRedirect {other : Failure} (hother : other.isOutsideRedirect = false) :
    other ≠ failure := by
  rintro rfl
  rw [hother] at h
  cases h

/-- Reading a host as a name does not fail so. -/
theorem hostNameOf_ne_error (url : Url) : hostNameOf url ≠ .error failure :=
  mapError_ne_error (fun _ => ne_of_isOutsideRedirect h rfl) _

/-- Writing a host field does not fail so. -/
theorem hostField_ne_error (url : Url) : hostField url ≠ .error failure := by
  rw [hostField]
  split
  · exact fun hfault => ne_of_isOutsideRedirect h rfl (Except.error.inj hfault)
  · exact ok_ne_error _

/-- Adding a host field does not fail so. -/
theorem hostHeader_ne_error (url : Url) (headers : Headers) :
    hostHeader url headers ≠ .error failure := by
  rw [hostHeader]
  split
  · exact ok_ne_error _
  · split
    · exact fun hfault => ne_of_isOutsideRedirect h rfl (Except.error.inj hfault)
    · split
      · exact ok_ne_error _
      · exact map_ne_error _ (hostField_ne_error h url)

/-- The URL of a redirect is not refused so. -/
theorem redirectUrl_ne_error (origin : Url) (location : String) :
    redirectUrl origin location ≠ .error failure := by
  have hurl (x : Except Url.Fault Url) : x.mapError Failure.url ≠ .error failure :=
    mapError_ne_error (fun _ => ne_of_isOutsideRedirect h rfl) x
  refine bind_ne_error (mapError_ne_error (fun _ => ne_of_isOutsideRedirect h rfl) _) fun url => ?_
  refine bind_ne_error ?_ fun url => bind_ne_error ?_ fun url => ?_
  · rw [completeHost]
    split
    · exact ok_ne_error _
    · refine bind_ne_error (hostNameOf_ne_error h _) fun name => ?_
      split
      · exact ok_ne_error _
      · exact bind_ne_error (hostNameOf_ne_error h _) fun _ => hurl _
  · rw [resolve]
    split
    · exact ok_ne_error _
    · exact hurl _
  · rw [keepFragment]
    split
    · exact hurl _
    · exact ok_ne_error _

/-- The header fields after a redirect do not fail so. -/
theorem redirectHeaders_ne_error (origin url : Url) (dropsContent : Bool) (headers : Headers) :
    redirectHeaders origin url dropsContent headers ≠ .error failure := by
  refine bind_ne_error (hostNameOf_ne_error h _) fun host => ?_
  refine bind_ne_error (hostNameOf_ne_error h _) fun originHost => ?_
  refine bind_ne_error ?_ fun _ => ok_ne_error _
  rw [moveHeaders]
  split
  · exact ok_ne_error _
  · exact map_ne_error _ (hostField_ne_error h url)

/-- Making the next request of a redirect looks at texts only. -/
theorem redirect_ne_error (request : Request) (status : Int) (location : String) :
    redirect request status location ≠ .error failure := by
  refine bind_ne_error (redirectUrl_ne_error h _ _) fun url => ?_
  refine bind_ne_error (redirectHeaders_ne_error h _ _ _ _) fun headers => ?_
  split
  · exact bind_ne_error (hostHeader_ne_error h _ _) fun _ => ok_ne_error _
  · exact ok_ne_error _

end

/-! ### What a request cannot meet -/

section

variable {failure : Failure} (h : failure.isOutsideRedirect = true)

include h

/-- Writing a header field does not fail so. -/
theorem headerOf_ne_error (field : String × String) : headerOf field ≠ .error failure := by
  rw [headerOf]
  split
  · exact fun hfault => ne_of_isOutsideRedirect h rfl (Except.error.inj hfault)
  · exact ok_ne_error _

/-- Building a request looks at texts only, as the redirects do. -/
theorem Config.request_ne_error (config : Config) (target : Target) :
    config.request target ≠ .error failure := by
  refine bind_ne_error (mapError_ne_error (fun _ => ne_of_isOutsideRedirect h rfl) _) fun url => ?_
  refine bind_ne_error (mapM_ne_error (headerOf_ne_error h) _) fun fields => ?_
  exact bind_ne_error (hostHeader_ne_error h _ _) fun _ => ok_ne_error _

end

/-! ### The chain -/

/-- The world after a redirect whose response was read and closed. -/
def afterRedirect (c : Client) (request : Request) (w : World) : World :=
  (w.exchange (c.sends request)).2.settleStream true

/-- A number of redirects that a client follows, up to a request that is still to be sent. -/
inductive Reaches (c : Client) : ℕ → Request → World → Request → World → Prop
  | here {request : Request} {w : World} : Reaches c 0 request w request w
  | hop {n : ℕ} {request next last : Request} {w w' : World} {response : Response}
      {location : String} {raw : Text.Octets} :
      c.followRedirects = true →
      w.nextReply = .response response →
      request.url.jarFault? = none →
      response.location? = some location →
      redirect request response.status location = .ok next →
      response.body = .ok raw →
      Reaches c n next (afterRedirect c request w) last w' →
      Reaches c (n + 1) request w last w'

/-- The reply to a request ends the chain with a failure. -/
inductive Stops (c : Client) (request : Request) (w : World) : Failure → Prop
  | connection {failure : TransportFailure} :
      w.nextReply = .failure failure → Stops c request w (.transport failure)
  | refusal {response : Response} {failure : Failure} :
      w.nextReply = .response response → refusal? request response = some failure →
      Stops c request w failure
  | body {response : Response} {location : String} {next : Request} {failure : TransportFailure} :
      c.followRedirects = true →
      w.nextReply = .response response →
      request.url.jarFault? = none →
      response.location? = some location →
      redirect request response.status location = .ok next →
      response.body = .error failure →
      Stops c request w (.transport failure)

/-- An exchange gives the next reply. -/
theorem exchange_eq (sent : Sent) (w : World) :
    w.exchange sent = (w.nextReply, (w.exchange sent).2) := rfl

/-- A redirect that is followed spends one request of the budget. -/
theorem fetch_hop {c : Client} {budget : ℕ} {request next : Request} {w : World}
    {response : Response} {location : String} {raw : Text.Octets}
    (hfollow : c.followRedirects = true) (hreply : w.nextReply = .response response)
    (hjar : request.url.jarFault? = none) (hlocation : response.location? = some location)
    (hnext : redirect request response.status location = .ok next)
    (hbody : response.body = .ok raw) :
    fetch c (budget + 1) request w = fetch c budget next (afterRedirect c request w) := by
  rw [fetch, exchange_eq, hreply]
  simp only [hjar, hlocation, hnext, hfollow, if_true, hbody]
  rfl

/-- A chain of redirects that were followed leaves the rest of the budget. -/
theorem fetch_of_reaches {c : Client} {n : ℕ} {request last : Request} {w w' : World}
    (h : Reaches c n request w last w') (budget : ℕ) :
    fetch c (n + budget) request w = fetch c budget last w' := by
  induction h with
  | here => rw [Nat.zero_add]
  | @hop n request next last w w' response location raw hfollow hreply hjar hlocation hnext hbody
      _ ih =>
      rw [show n + 1 + budget = n + budget + 1 by omega,
        fetch_hop hfollow hreply hjar hlocation hnext hbody, ih]

/-- Where the chain stops, the fetch fails. -/
theorem Stops.fetch_eq {c : Client} {request : Request} {w : World} {failure : Failure}
    (h : Stops c request w failure) (budget : ℕ) :
    (fetch c (budget + 1) request w).1 = .error failure := by
  cases h with
  | connection hreply => rw [fetch, exchange_eq, hreply]
  | refusal hreply hrefusal =>
      rw [fetch, exchange_eq, hreply]
      obtain ⟨fault, hjar, rfl⟩ | ⟨hjar, location, hlocation, hredirect⟩ :=
        refusal?_eq_some.mp hrefusal
      · simp only [hjar]
      · simp only [hjar, hlocation, hredirect]
  | body hfollow hreply hjar hlocation hnext hbody =>
      rw [fetch, exchange_eq, hreply]
      simp only [hjar, hlocation, hnext, hfollow, if_true, hbody]

/-- One step of a fetch that fails: the chain stops here, or a redirect is followed. -/
theorem stops_or_hop_of_fetch {c : Client} {budget : ℕ} {request : Request} {w : World}
    {failure : Failure} (h : (fetch c (budget + 1) request w).1 = .error failure) :
    Stops c request w failure ∨
      ∃ response location next raw, c.followRedirects = true ∧
        w.nextReply = .response response ∧ request.url.jarFault? = none ∧
        response.location? = some location ∧
        redirect request response.status location = .ok next ∧ response.body = .ok raw := by
  rw [fetch, exchange_eq] at h
  cases hreply : w.nextReply with
  | failure f =>
      simp only [hreply, Except.error.injEq] at h
      subst h
      exact Or.inl (Stops.connection hreply)
  | response response =>
      simp only [hreply] at h
      cases hjar : request.url.jarFault? with
      | some fault =>
          simp only [hjar, Except.error.injEq] at h
          subst h
          exact Or.inl (Stops.refusal hreply (refusal?_of_jarFault hjar response))
      | none =>
          simp only [hjar] at h
          cases hlocation : response.location? with
          | none => simp [hlocation] at h
          | some location =>
              simp only [hlocation] at h
              cases hredirect : redirect request response.status location with
              | error f =>
                  simp only [hredirect, Except.error.injEq] at h
                  subst h
                  have hrefusal : refusal? request response = some f :=
                    refusal?_eq_some.mpr (.inr ⟨hjar, location, hlocation, hredirect⟩)
                  exact Or.inl (Stops.refusal hreply hrefusal)
              | ok next =>
                  cases hfollow : c.followRedirects with
                  | false => simp [hredirect, hfollow] at h
                  | true =>
                      cases hbody : response.body with
                      | ok raw =>
                          exact Or.inr ⟨response, location, next, raw, rfl, rfl, rfl, hlocation,
                            hredirect, hbody⟩
                      | error f =>
                          simp only [hredirect, hfollow, if_true, hbody,
                            Except.error.injEq] at h
                          subst h
                          exact Or.inl (Stops.body hfollow hreply hjar hlocation hredirect hbody)

/-- **The failures of a fetch.** A chain within the budget stops, or there are more redirects
than the budget allows. -/
theorem fetch_error_iff {c : Client} {budget : ℕ} {request : Request} {w : World}
    {failure : Failure} :
    (fetch c budget request w).1 = .error failure ↔
      (∃ n < budget, ∃ last w', Reaches c n request w last w' ∧ Stops c last w' failure) ∨
        (failure = .tooManyRedirects ∧ ∃ last w', Reaches c budget request w last w') := by
  constructor
  · intro h
    induction budget generalizing request w with
    | zero =>
        rw [fetch, Except.error.injEq] at h
        exact Or.inr ⟨h.symm, request, w, Reaches.here⟩
    | succ budget ih =>
        rcases stops_or_hop_of_fetch h with
          hstops | ⟨response, location, next, raw, hfollow, hreply, hjar, hlocation, hnext, hbody⟩
        · exact Or.inl ⟨0, Nat.succ_pos budget, request, w, Reaches.here, hstops⟩
        · rw [fetch_hop hfollow hreply hjar hlocation hnext hbody] at h
          rcases ih h with ⟨n, hn, last, w', hreaches, hstops⟩ | ⟨hfailure, last, w', hreaches⟩
          · exact Or.inl ⟨n + 1, Nat.succ_lt_succ hn, last, w',
              Reaches.hop hfollow hreply hjar hlocation hnext hbody hreaches, hstops⟩
          · exact Or.inr ⟨hfailure, last, w',
              Reaches.hop hfollow hreply hjar hlocation hnext hbody hreaches⟩
  · rintro (⟨n, hn, last, w', hreaches, hstops⟩ | ⟨rfl, last, w', hreaches⟩)
    · obtain ⟨rest, rfl⟩ : ∃ rest, budget = n + (rest + 1) := ⟨budget - n - 1, by omega⟩
      rw [fetch_of_reaches hreaches]
      exact hstops.fetch_eq rest
    · rw [← Nat.add_zero budget, fetch_of_reaches hreaches, fetch]

/-- A failure that no fetch ends with: it is found before the first request or after the last
response. -/
def Http.Failure.isOutsideFetch : Failure → Bool
  | .clientClosed | .rejected .. => true
  | .url _ | .notAscii _ | .host _ | .transport _ | .jar _ | .location _ | .tooManyRedirects =>
    false

/-- What no fetch ends with, no redirect ends with. -/
theorem Http.Failure.isOutsideRedirect_of_isOutsideFetch {failure : Failure}
    (h : failure.isOutsideFetch = true) : failure.isOutsideRedirect = true := by
  cases failure <;> first | rfl | cases h

/-- A fetch neither finds its client closed nor rejects a response. -/
theorem fetch_ne_error {failure : Failure} (h : failure.isOutsideFetch = true) (c : Client)
    (budget : ℕ) (request : Request) (w : World) :
    (fetch c budget request w).1 ≠ .error failure := by
  rw [Ne, fetch_error_iff]
  rintro (⟨n, -, last, w', -, hstops⟩ | ⟨rfl, -⟩)
  · cases hstops with
    | connection _ => cases h
    | refusal _ hrefusal =>
        obtain ⟨fault, -, rfl⟩ | ⟨-, location, -, hredirect⟩ := refusal?_eq_some.mp hrefusal
        · cases h
        · exact redirect_ne_error (Failure.isOutsideRedirect_of_isOutsideFetch h) _ _ _ hredirect
    | body _ _ _ _ _ _ => cases h
  · cases h

end AlertRelay

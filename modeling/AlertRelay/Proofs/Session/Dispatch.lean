import AlertRelay.Proofs.Send.Writing
import AlertRelay.Proofs.Session.Release
import AlertRelay.Proofs.Url.Jar

/-!
# One Request for Each Alert

A client that does not follow redirects makes one request for a send, and whatever the remote
side answers to it, no other: a rejection, a connection that fails and a body that breaks off are
reported, and not tried again. What it sends is the request that is built for the target, with
the credentials of the URL added to it where there are any.

At any point of a session the next send goes through the client that the session was given, or
through an open one with the client options of the configuration, so what a send step makes the
remote side receive is what a build step answers at the same point.

## Main results

* `send_sent_of_stays`: the requests of a send whose client does not follow redirects.
* `Session.run_given_client`: the client that a session was given stays its only one.
* `Session.step_send_closes`: a send step that asks a plain host holds on to nothing.
* `Session.run_send_dispatches_once`: **a send step makes one request**, the one that a build
  step answers, or none.
-/

namespace AlertRelay

open Http

/-! ### One send -/

section

variable {c : Client} (hstays : c.followRedirects = false)

include hstays

/-- A fetch that follows no redirect makes one request, whatever is answered. -/
theorem fetch_sent_of_stays (budget : ℕ) (request : Request) (w : World) :
    (fetch c (budget + 1) request w).2.journal.sent =
      w.journal.sent ++ [c.sends request] := by
  rw [fetch, exchange_eq]
  cases w.nextReply with
  | failure failure => rfl
  | response response =>
      simp only
      cases request.url.jarFault? with
      | some fault => rfl
      | none =>
          cases response.location? with
          | none => rfl
          | some location =>
              simp only
              cases redirect request response.status location with
              | error failure => rfl
              | ok next =>
                  simp only [hstays, Bool.false_eq_true, if_false]
                  rfl

/-- A delivery makes one request, unless its client is closed. -/
theorem deliver_sent_of_stays (key : String) (request : Request) (w : World) :
    (deliver c key request w).2.journal.sent =
      w.journal.sent ++ if c.closed then [] else [c.sends request.authorize] := by
  rw [deliver]
  cases c.closed with
  | true => simp
  | false =>
      have hfetch := fetch_sent_of_stays hstays redirectLimit request.authorize w
      generalize fetch c (redirectLimit + 1) request.authorize w = fetched at hfetch ⊢
      obtain ⟨failure | response, w'⟩ := fetched
      · exact hfetch
      · simp only [Bool.false_eq_true, if_false]
        cases response.body with
        | error failure => exact hfetch
        | ok raw =>
            simp only [judge_journal]
            exact hfetch

/-- **The requests of a send.** It makes one when its request is built and its client is open,
and none otherwise. -/
theorem send_sent_of_stays {config : Config} {client : Option ℕ} {w : World}
    (hclient : sender? config w client = some c) (target : Target) :
    (send config client target w).2.2.journal.sent =
      w.journal.sent ++
        match config.request target with
        | .ok request => if c.closed then [] else [c.sends request.authorize]
        | .error _ => [] := by
  cases hrequest : config.request target with
  | error failure => simp [send_of_request_error hrequest]
  | ok request =>
      rw [(send_eq_deliver hrequest hclient).2, deliver_sent_of_stays hstays, atDelivery_journal]

end

/-- A URL without a user name and a password. -/
def Url.IsAnonymous (url : Url) : Prop := url.credentials = ("", "")

/-- Without credentials in its URL a request is sent as it is built. -/
theorem Http.Request.authorize_of_isAnonymous {request : Request} (h : request.url.IsAnonymous) :
    request.authorize = request := by
  rw [Request.authorize, show request.url.credentials = ("", "") from h]
  simp

namespace Session

open Schema

/-! ### The client of a session -/

/-- A send in a session that was given a client opens no other, and leaves it as it is. -/
theorem sendTarget_clients_of_given {s : Session} (hgiven : s.client.isSome = true)
    (target : Target) : (s.sendTarget target).2.world.clients = s.world.clients := by
  obtain ⟨own, hclients, -, hnone⟩ := sendTarget_clients target s
  rw [hclients, hnone hgiven, List.append_nil]

/-- The client that a session was given stays its only one, and can only be closed. -/
theorem run_given_client (config : Config) (given : Client) (steps : List Step) :
    ∃ closed, ((start config (some given)).run steps).2.world.clients = [{ given with closed }] := by
  have hkept := run_induction steps
    (P := fun s => s.client = some 0 ∧ ∃ closed, s.world.clients = [{ given with closed }])
    (s := start config (some given)) ?step ⟨rfl, given.closed, rfl⟩
  · exact hkept.2
  case step =>
    rintro s next - ⟨hclient, closed, hclients⟩
    refine ⟨(step_client s next).trans hclient, ?_⟩
    obtain ⟨target, evaluation, replies, rfl⟩ | ⟨id, hid, hstep⟩ | ⟨answer, config, hstep, -⟩ :=
      s.step_cases next
    · cases haccepted : acceptedTarget target evaluation with
      | error faults =>
          exact ⟨closed, by rw [step_send_of_refused haccepted, facing_clients, hclients]⟩
      | ok t =>
          have hgiven : (s.facing replies).client.isSome = true := by
            rw [facing_client, hclient]
            rfl
          refine ⟨closed, ?_⟩
          rw [step_send_of_accepted haccepted, sendTarget_clients_of_given hgiven, facing_clients,
            hclients]
    · obtain rfl : 0 = id := Option.some.inj (hclient.symm.trans hid)
      refine ⟨true, ?_⟩
      rw [hstep]
      simp [World.closeClient, hclients]
    · exact ⟨closed, by rw [hstep, hclients]⟩

/-- The client of the next send follows redirects as the client that was given does, or as the
client options of the configuration say. -/
theorem exists_sender (config : Config) (given : Option Client) (steps : List Step) :
    let s := ((start config given).run steps).2
    ∃ c, sender? s.config s.world s.client = some c ∧
      c.followRedirects =
        (given.map (·.followRedirects)).getD (s.config.client.getD {}).followRedirects := by
  intro s
  have hclient : s.client = (start config given).client := run_client _ steps
  cases given with
  | none =>
      rw [hclient]
      exact ⟨_, rfl, rfl⟩
  | some given =>
      obtain ⟨closed, hclients⟩ := run_given_client config given steps
      refine ⟨{ given with closed }, ?_, rfl⟩
      rw [hclient]
      simp only [start, sender?]
      rw [hclients]
      rfl

/-! ### Send steps -/

/-- The build step about a document that is accepted. -/
theorem step_build_of_read {target : TargetDocument} {t : Target} (h : target.read = .ok t)
    (s : Session) :
    (s.step (.build target)).1 =
      match s.config.request t with
      | .ok request => .request request
      | .error failure => .failed failure := by
  simp only [step, h]
  cases s.config.request t <;> rfl

/-- A target that is accepted together with an evaluation is accepted. -/
theorem read_of_accepted {target : TargetDocument} {evaluation : Json} {t : Target}
    (h : acceptedTarget target evaluation = .ok t) : target.read = .ok t := by
  rw [acceptedTarget] at h
  cases hread : target.read with
  | error faults =>
      rw [hread] at h
      cases h
  | ok other =>
      rw [hread] at h
      simp only [bind, Except.bind] at h
      split at h
      · cases h
      · exact h

/-- What the remote side receives during a send step whose client does not follow redirects. -/
theorem step_send_sent {s : Session} {c : Client}
    (hclient : sender? s.config s.world s.client = some c) (hstays : c.followRedirects = false)
    (target : TargetDocument) (evaluation : Json) (replies : Option (List Reply)) :
    (s.step (.send target evaluation replies)).2.world.journal.sent =
      match acceptedTarget target evaluation with
      | .error _ => []
      | .ok t =>
          match s.config.request t with
          | .ok request => if c.closed then [] else [c.sends request.authorize]
          | .error _ => [] := by
  cases haccepted : acceptedTarget target evaluation with
  | error faults => rw [step_send_of_refused haccepted, facing_journal]
  | ok t =>
      have hfacing : sender? (s.facing replies).config (s.facing replies).world
          (s.facing replies).client = some c := by
        rw [← hclient, facing_config, facing_client]
        cases s.client with
        | some id => simp only [sender?, facing_clients]
        | none => rfl
      rw [step_send_of_accepted haccepted, sendTarget_world, send_sent_of_stays hstays hfacing,
        facing_journal, List.nil_append, facing_config]

/-- **A send step that asks a plain host holds on to nothing.** Where the client does not follow
redirects, and the URL of the request has a scheme and a plain host, every response is closed. -/
theorem step_send_closes {s : Session} {c : Client}
    (hclient : sender? s.config s.world s.client = some c) (hstays : c.followRedirects = false)
    {target : TargetDocument} {evaluation : Json}
    (hplain : ∀ t request, acceptedTarget target evaluation = .ok t →
      s.config.request t = .ok request → request.url.scheme ≠ "" ∧ request.url.HasPlainHost)
    (replies : Option (List Reply)) :
    ∀ stream ∈ (s.step (.send target evaluation replies)).2.world.journal.streams,
      stream.closed = true := by
  have hsent := step_send_sent hclient hstays target evaluation replies
  obtain ⟨-, -, hrefused, hreport⟩ := step_send_releases s target evaluation replies
  cases haccepted : acceptedTarget target evaluation with
  | error faults =>
      rw [hrefused faults (by rw [step_send_of_refused haccepted])]
      exact List.forall_mem_nil _
  | ok t =>
      obtain ⟨-, -, hleaves⟩ := hreport _ (by rw [step_send_of_accepted haccepted])
      refine hleaves.closed fun fault hfault => ?_
      obtain ⟨read, last, -, -, hlast, hjar⟩ := hleaves.left fault hfault
      rw [haccepted] at hsent
      cases hrequest : s.config.request t with
      | error failure => simp [hsent, hrequest] at hlast
      | ok request =>
          obtain ⟨hscheme, hhost⟩ := hplain t request haccepted hrequest
          have htaken : request.authorize.url.jarFault? = none := by
            rw [request.authorize_url]
            exact Url.jarFault?_of_read (Config.read_of_request hrequest) hscheme hhost
          cases hclosed : c.closed with
          | true => simp [hsent, hrequest, hclosed] at hlast
          | false =>
              obtain rfl : request.authorize = last := by
                simpa [hsent, hrequest, hclosed, Client.sends] using hlast
              rw [htaken] at hjar
              cases hjar

/-- A send step and a build step about the same target agree: what the one makes the remote side
receive is what the other answers. -/
theorem step_send_dispatches {s : Session} {c : Client}
    (hclient : sender? s.config s.world s.client = some c) (hstays : c.followRedirects = false)
    {target : TargetDocument}
    (hanonymous : ∀ t url, target.read = .ok t → Url.read (s.config.render t).url = .ok url →
      url.IsAnonymous)
    (evaluation : Json) (replies : Option (List Reply)) :
    let received := (s.step (.send target evaluation replies)).2.world.journal.sent
    (∀ r, (acceptedTarget target evaluation).isOk = true →
        (s.step (.build target)).1 = .request r → c.closed = false →
        received = [c.sends r]) ∧
      ((acceptedTarget target evaluation).isOk = false ∨
          (∀ r, (s.step (.build target)).1 ≠ .request r) ∨ c.closed = true →
        received = []) := by
  intro received
  have hreceived : received = _ := step_send_sent hclient hstays target evaluation replies
  cases haccepted : acceptedTarget target evaluation with
  | error faults =>
      rw [haccepted] at hreceived
      exact ⟨fun _ hok => (nomatch hok), fun _ => hreceived⟩
  | ok t =>
      have hread := read_of_accepted haccepted
      rw [haccepted] at hreceived
      rw [step_build_of_read hread]
      cases hrequest : s.config.request t with
      | error failure =>
          simp only [hrequest] at hreceived
          exact ⟨fun _ _ hbuilt => (nomatch hbuilt), fun _ => hreceived⟩
      | ok request =>
          have hsame : request.authorize = request :=
            Request.authorize_of_isAnonymous
              (hanonymous t request.url hread (Config.read_of_request hrequest))
          simp only [hrequest, hsame] at hreceived
          refine ⟨?_, ?_⟩
          · rintro r - hbuilt hopen
            obtain rfl := Answer.request.inj hbuilt
            rw [hreceived, hopen]
            rfl
          · rintro (hrefused | hnone | hclosed)
            · cases hrefused
            · exact absurd rfl (hnone request)
            · rw [hreceived, hclosed]
              rfl

/-- **A send step makes one request.** At any point of any session a send goes through a client;
let it not follow redirects, and let the rendered URL have no user name and no password. If the
documents of the step are accepted, a build step about the same target answers a request and the
client is open, then the remote side receives this request and no other, whatever its replies
are. In every other case it receives none. The step reports what was received. -/
theorem run_send_dispatches_once (config : Config) (given : Option Client) (before : List Step)
    (target : TargetDocument) (evaluation : Json) (replies : Option (List Reply)) :
    let s := ((start config given).run before).2
    let after := s.step (.send target evaluation replies)
    let received := after.2.world.journal.sent
    ∃ c, sender? s.config s.world s.client = some c ∧
      c.followRedirects =
        (given.map (·.followRedirects)).getD (s.config.client.getD {}).followRedirects ∧
      (c.followRedirects = false →
        (∀ t url, target.read = .ok t → Url.read (s.config.render t).url = .ok url →
          url.IsAnonymous) →
        (∀ r, (acceptedTarget target evaluation).isOk = true →
            (s.step (.build target)).1 = .request r → c.closed = false →
            received = [c.sends r]) ∧
          ((acceptedTarget target evaluation).isOk = false ∨
              (∀ r, (s.step (.build target)).1 ≠ .request r) ∨ c.closed = true →
            received = [])) ∧
      ∀ report, after.1 = .sent report → report.journal.sent = received := by
  intro s after received
  obtain ⟨c, hclient, hfollows⟩ := exists_sender config given before
  refine ⟨c, hclient, hfollows, fun hstays hanonymous => ?_, fun report hreport => ?_⟩
  · exact step_send_dispatches hclient hstays hanonymous evaluation replies
  · obtain ⟨-, -, -, hreports⟩ := step_send_releases s target evaluation replies
    exact congrArg Journal.sent (hreports report hreport).1

/-- A body that breaks off after an assignment is not tried again. -/
theorem run_send_dispatches_once_broken :
    let s := ((start { url := "http://h/[ENDPOINT_NAME]" } none).run [.set (.body "b")]).2
    let broken : Reply := .response { status := 500, failure := some ⟨"ReadError", "reset"⟩ }
    ∃ r, (s.step (.build {})).1 = .request r ∧
      (s.step (.send {} (.object []) (some [broken]))).2.world.journal.sent =
        [({} : ClientOptions).client.sends r] := by
  intro s broken
  obtain ⟨c, hclient, -, hsend, -⟩ := run_send_dispatches_once
    { url := "http://h/[ENDPOINT_NAME]" } none [.set (.body "b")] {} (.object []) (some [broken])
  obtain rfl : ({} : ClientOptions).client = c := Option.some.inj hclient
  let t : Target := { endpoint := { name := "n" }, alert := {}, resolved := false }
  have hread : ({} : TargetDocument).read = .ok t := rfl
  have hcredentials : (Url.read (s.config.render t).url).map Url.credentials = .ok ("", "") := by
    decide +kernel
  have hbuilds : (s.config.request t).isOk = true := by decide +kernel
  have haccepted : (acceptedTarget {} (.object [])).isOk = true := by decide +kernel
  -- From here on the session is only a name, so that no step of it is evaluated.
  have hs : ((start { url := "http://h/[ENDPOINT_NAME]" } none).run [.set (.body "b")]).2 = s := rfl
  clear_value s
  rw [hs] at hsend
  have hanonymous : ∀ t url, ({} : TargetDocument).read = .ok t →
      Url.read (s.config.render t).url = .ok url → url.IsAnonymous := by
    intro t' url ht hurl
    obtain rfl := Except.ok.inj (hread.symm.trans ht)
    rw [hurl] at hcredentials
    exact Except.ok.inj hcredentials
  cases hrequest : s.config.request t with
  | error failure =>
      rw [hrequest] at hbuilds
      cases hbuilds
  | ok request =>
      have hbuilt : (s.step (.build {})).1 = .request request := by
        rw [step_build_of_read hread, hrequest]
      exact ⟨request, hbuilt, (hsend rfl hanonymous).1 request haccepted hbuilt rfl⟩

end Session

end AlertRelay

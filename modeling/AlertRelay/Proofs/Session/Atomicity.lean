import AlertRelay.Proofs.Session.Step

/-!
# Sends That Cannot Start

A send cannot start when its request is not built, or when the client that the session was given
is closed. It is **barred** then, and it fails before anything happened: no request goes out, no
client is opened or closed, the configuration keeps its missing client options, nothing is
logged, and the remote side has the replies that it had.

What is left of the step is a new page of the journal. No step looks at the page that an earlier
one wrote, since a send begins with a page of its own. So the rest of the session answers as if
the step had not been there.

## Main results

* `send_of_isBarred`: a send that is barred leaves the world and the configuration as they are.
* `Session.run_congr_of_turned`: no answer of a session depends on its journal.
* `Session.run_send_barred`: **a send that cannot start changes nothing**, and the steps behind
  it do not notice it.
-/

namespace AlertRelay

open Http Schema

/-! ### One send -/

/-- Why a send about a target cannot start: the request is not built, or it is built and the
client that was given for it is closed. -/
inductive IsBarred (config : Config) (client : Option ℕ) (target : Target) (w : World) :
    Failure → Prop
  | unbuilt {failure : Failure} : config.request target = .error failure →
      IsBarred config client target w failure
  | closed {request : Request} {id : ℕ} {c : Client} : config.request target = .ok request →
      client = some id → w.clients[id]? = some c → c.closed = true →
      IsBarred config client target w .clientClosed

/-- A closed client delivers nothing. -/
theorem deliver_of_closed {c : Client} (h : c.closed = true) (key : String) (request : Request)
    (w : World) : deliver c key request w = (.error .clientClosed, w) := by
  rw [deliver, if_pos h]

/-- A send that is barred leaves the world and the configuration as they are. -/
theorem send_of_isBarred {config : Config} {client : Option ℕ} {target : Target} {w : World}
    {failure : Failure} (h : IsBarred config client target w failure) :
    send config client target w = (.error failure, config, w) := by
  cases h with
  | unbuilt hrequest => exact send_of_request_error hrequest client w
  | @closed request id c hrequest hclient hget hclosed =>
      have hsender : w.clients.getD id default = c := by
        rw [List.getD_eq_getElem?_getD, hget]
        rfl
      have hdelivered := deliver_of_closed hclosed target.endpoint.key request w
      rw [hclient, send_injected hrequest, hsender, hdelivered]

namespace Session

/-! ### The page of the journal -/

/-- A session with a new page in its journal. -/
def turned (s : Session) : Session := { s with world := s.world.newPage }

/-- A step does the same where the page is new. -/
theorem step_turned (s : Session) (next : Step) :
    (s.turned.step next).1 = (s.step next).1 ∧
      (s.turned.step next).2.turned = (s.step next).2.turned := by
  have hbare : bare s.turned.config = bare s.config := rfl
  cases next with
  | isValid | withDefaults | defaultAlert => exact ⟨rfl, rfl⟩
  | send target evaluation replies =>
      -- A send turns the page itself, so both sessions face the same world.
      have hfacing : s.turned.facing replies = s.facing replies := rfl
      rw [step_send, step_send, hfacing]
      exact ⟨rfl, rfl⟩
  | set change =>
      have hconfig : s.turned.config = s.config := rfl
      simp only [step, hconfig]
      cases change.apply s.config <;> exact ⟨rfl, rfl⟩
  | render target =>
      rw [step_render_snd, step_render_snd]
      exact ⟨step_render_congr hbare target, rfl⟩
  | build target =>
      rw [step_build_snd, step_build_snd]
      exact ⟨step_build_congr hbare target, rfl⟩
  | closeClient =>
      have hclient : s.turned.client = s.client := rfl
      simp only [step, hclient]
      cases s.client <;> exact ⟨rfl, rfl⟩

/-- No answer of a session depends on its journal. -/
theorem run_congr_of_turned {s t : Session} (h : s.turned = t.turned) (steps : List Step) :
    (s.run steps).1 = (t.run steps).1 := by
  induction steps generalizing s t with
  | nil => rfl
  | cons first rest ih =>
      obtain ⟨hanswer, hafter⟩ := step_turned s first
      obtain ⟨hanswer', hafter'⟩ := step_turned t first
      have hnext : (s.step first).2.turned = (t.step first).2.turned := by
        rw [← hafter, h, hafter']
      have hfirst : (s.step first).1 = (t.step first).1 := by
        rw [← hanswer, h, hanswer']
      rw [run_cons, run_cons, hfirst, ih hnext]

/-! ### Runs around a step -/

/-- Steps are taken one after the other. -/
theorem run_append (s : Session) (before after : List Step) :
    s.run (before ++ after) =
      ((s.run before).1 ++ ((s.run before).2.run after).1, ((s.run before).2.run after).2) := by
  induction before generalizing s with
  | nil => rfl
  | cons first rest ih => rw [List.cons_append, run_cons, ih, run_cons, List.cons_append]

/-- Every step has an answer. -/
theorem length_run (s : Session) (steps : List Step) : (s.run steps).1.length = steps.length := by
  induction steps generalizing s with
  | nil => rfl
  | cons first rest ih => rw [run_cons, List.length_cons, ih, List.length_cons]

/-! ### Steps that are barred -/

/-- The report of a send that did not start. -/
def unstarted (s : Session) (failure : Failure) : Report where
  outcome := .error failure
  journal := {}
  hasOptions := s.config.client.isSome
  clientsClosed := s.world.clients.map (·.closed)

/-- A send step that is barred turns the page of the journal and hands over the replies. -/
theorem step_send_of_isBarred {s : Session} {target : TargetDocument} {evaluation : Json}
    {t : Target} {failure : Failure} (haccepted : acceptedTarget target evaluation = .ok t)
    (hbarred : IsBarred s.config s.client t s.world failure) (replies : Option (List Reply)) :
    s.step (.send target evaluation replies) =
      (.sent (s.unstarted failure), s.facing replies) := by
  have hfacing : IsBarred (s.facing replies).config (s.facing replies).client t
      (s.facing replies).world failure := by
    cases hbarred with
    | unbuilt hrequest => exact .unbuilt hrequest
    | closed hrequest hclient hget hclosed =>
        refine .closed hrequest hclient ?_ hclosed
        rw [facing_clients]
        exact hget
  rw [step_send_of_accepted haccepted, sendTarget_eq, send_of_isBarred hfacing]
  simp only [facing_journal, facing_config, facing_clients]
  rfl

/-- **A send that cannot start changes nothing.** At any point of any session, let a send step
have documents that are accepted, and let it be barred. Then it fails with what bars it, and
reports no request, no response and no record; the configuration and the clients stay as they
are, open or closed, and the remote side has the replies that it had, or those that came with
the step. All later steps answer as they would if the replies alone had come; and without
replies, as if the step had not been there. -/
theorem run_send_barred (config : Config) (given : Option Client) (before : List Step)
    (target : TargetDocument) (evaluation : Json) (replies : Option (List Reply)) (t : Target)
    (failure : Failure) (haccepted : acceptedTarget target evaluation = .ok t) :
    let start := start config given
    let s := (start.run before).2
    let next := Step.send target evaluation replies
    let after := (s.step next).2
    IsBarred s.config s.client t s.world failure →
    (s.step next).1 = .sent
        { outcome := .error failure
          journal := { sent := [], streams := [], records := [] }
          hasOptions := s.config.client.isSome
          clientsClosed := s.world.clients.map (·.closed) } ∧
      after.config = s.config ∧ after.world.clients = s.world.clients ∧
      after.world.replies = replies.getD s.world.replies ∧
      ∀ later,
        (after.run later).1 = ({ s with world := s.world.load replies }.run later).1 ∧
        (replies = none →
          (start.run (before ++ next :: later)).1.eraseIdx before.length =
            (start.run (before ++ later)).1) := by
  intro start s next after hbarred
  have hstep : s.step next = (.sent (s.unstarted failure), s.facing replies) :=
    step_send_of_isBarred haccepted hbarred replies
  have hafter : after = s.facing replies := congrArg Prod.snd hstep
  have hlater (later : List Step) :
      (after.run later).1 = ({ s with world := s.world.load replies }.run later).1 := by
    rw [hafter]
    refine run_congr_of_turned ?_ later
    cases replies <;> rfl
  refine ⟨congrArg Prod.fst hstep, ?_, ?_, ?_, fun later => ⟨hlater later, ?_⟩⟩
  · rw [hafter, facing_config]
  · rw [hafter, facing_clients]
  · rw [hafter, facing_replies]
    rfl
  · rintro rfl
    have hwhole : (start.run (before ++ next :: later)).1 =
        (start.run before).1 ++ (s.step next).1 :: (after.run later).1 := by
      rw [run_append, run_cons]
    rw [hwhole, ← length_run start before, List.eraseIdx_append_of_length_le (Nat.le_refl _),
      Nat.sub_self, List.eraseIdx_zero, List.tail_cons, hlater later, run_append]
    rfl

/-- A name with an end of line makes the URL malformed. The client options stay missing, and the
rejection that follows is answered as if it came first. -/
theorem run_send_barred_malformed :
    let start := start { url := "http://h/[ENDPOINT_NAME]" } none
    let before : List Step := [.set (.body "b")]
    let target : TargetDocument := { endpoint := .object [("name", .string "\n")] }
    let t : Target := { endpoint := { name := "\n" }, alert := {}, resolved := false }
    let failure : Failure := .url (.control '\n' 9)
    let s := (start.run before).2
    let next := Step.send target (.object []) none
    let rejected : Step := .send {} (.object []) (some [.response { status := 500 }])
    acceptedTarget target (.object []) = .ok t ∧
      IsBarred s.config s.client t s.world failure ∧
      (s.step next).2.config.client = none ∧
      (start.run (before ++ [next, rejected])).1.eraseIdx before.length =
        (start.run (before ++ [rejected])).1 := by
  intro start before target t failure s next rejected
  have haccepted : acceptedTarget target (.object []) = .ok t := rfl
  have hrequest : s.config.request t = .error failure := by decide +kernel
  have hbarred : IsBarred s.config s.client t s.world failure := .unbuilt hrequest
  have hnone : s.config.client = none := rfl
  obtain ⟨-, hconfig, -, -, hlater⟩ := run_send_barred { url := "http://h/[ENDPOINT_NAME]" } none
    before target (.object []) none t failure haccepted hbarred
  -- From here on the session is only a name, so that no step of it is evaluated.
  have hs : ((Session.start { url := "http://h/[ENDPOINT_NAME]" } none).run before).2 = s := rfl
  rw [hs] at hconfig
  clear_value s
  refine ⟨haccepted, hbarred, ?_, (hlater [rejected]).2 rfl⟩
  rw [hconfig, hnone]

end Session

end AlertRelay

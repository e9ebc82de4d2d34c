import AlertRelay.Proofs.Send.Dependence
import AlertRelay.Proofs.Session.Step

/-!
# Ownership of the Client

A session sends through a client that it was given, or opens one for each send from the client
options of its configuration. Where the options are missing they are filled in at the first
occasion, or they were filled in before. None of this shows in what a session does: with the
options of the configuration, the three ways give the same answers, as long as no step assigns a
field or closes the client that was given.

The proof is a simulation. Two sessions are **alike** when their configurations agree up to
filling in the options, the remote side has the same replies left for both, and the client that
the next send goes through is the same one. A step of two sessions that are alike gives answers
that agree, and leaves the sessions alike.

## Main results

* `Session.step_alike`: a step in two sessions that are alike.
* `Session.run_alike`: all steps in two sessions that are alike.
* `Session.run_answers_alike`: **the three ways to own a client agree.**
-/

namespace AlertRelay.Session

open Http Schema

/-- A step that neither assigns a field nor closes the client. -/
def Step.keepsClient : Step → Bool
  | .set _ | .closeClient => false
  | .isValid | .withDefaults | .defaultAlert | .render _ | .build _ | .send .. => true

/-- What an answer tells without regard to who owns the client: neither whether client options
were there before, nor which clients there are so far. -/
def Answer.shared : Answer → Answer
  | .validity valid client _ => .validity valid client false
  | .copy copied _ => .copy copied none
  | .sent report => .sent { report with hasOptions := true, clientsClosed := [] }
  | answer => answer

/-- Two sessions that differ in who owns the client, and in whether client options that are
missing are filled in. Their next send goes through the client `c`. -/
structure Alike (c : Client) (s t : Session) : Prop where
  config : s.config.withDefaults = t.config.withDefaults
  replies : s.world.replies = t.world.replies
  sender : sender? s.config s.world s.client = some c
  sender' : sender? t.config t.world t.client = some c

/-! ### The client of the next send -/

/-- Configurations of sessions that are alike agree up to client options. -/
theorem Alike.bare {c : Client} {s t : Session} (h : Alike c s t) :
    bare s.config = bare t.config := by
  rw [← bare_withDefaults, h.config, bare_withDefaults]

/-- The client of the next send depends on the clients only where one was given, and on the
configuration up to filling in client options. -/
theorem sender?_congr {c c' : Config} {w w' : World} {client : Option ℕ}
    (hconfig : c.withDefaults = c'.withDefaults)
    (hclients : client.isSome = true → w.clients = w'.clients) :
    sender? c w client = sender? c' w' client := by
  cases client with
  | some id => rw [sender?, sender?, hclients rfl]
  | none => rw [sender?, sender?, hconfig]

/-! ### One step -/

/-- The client of the next send is the same after a send. -/
theorem sender?_sendTarget {s : Session} {c : Client}
    (h : sender? s.config s.world s.client = some c) (target : Target) :
    sender? (s.sendTarget target).2.config (s.sendTarget target).2.world
      (s.sendTarget target).2.client = some c := by
  have hconfig : (s.sendTarget target).2.config.withDefaults = s.config.withDefaults := by
    rw [sendTarget_config, send_config]
    split <;> rfl
  obtain ⟨own, hclients, -, hnone⟩ := send_clients s.config s.client target s.world
  rw [sendTarget_client, ← h]
  refine sender?_congr hconfig fun hgiven => ?_
  rw [sendTarget_world, hclients, hnone hgiven, List.append_nil]

/-- A send in two sessions that are alike. -/
theorem sendTarget_alike {c : Client} {s t : Session} (h : Alike c s t)
    (hjournal : s.world.journal = t.world.journal) (target : Target) :
    (Answer.sent (s.sendTarget target).1).shared = (Answer.sent (t.sendTarget target).1).shared ∧
      Alike c (s.sendTarget target).2 (t.sendTarget target).2 := by
  obtain ⟨houtcome, hpage, hreplies⟩ := send_congr (request_congr h.bare target) rfl h.sender
    h.sender' h.replies hjournal
  rw [← sendTarget_outcome, ← sendTarget_outcome] at houtcome
  rw [← sendTarget_world, ← sendTarget_world, ← sendTarget_journal, ← sendTarget_journal] at hpage
  refine ⟨?_, ?_, ?_, sender?_sendTarget h.sender target, sender?_sendTarget h.sender' target⟩
  · simp only [Answer.shared, houtcome, hpage]
  · rw [sendTarget_config, sendTarget_config, send_config, send_config]
    split <;> split <;> exact h.config
  · rw [sendTarget_world, sendTarget_world, hreplies]

/-- The beginning of a send step leaves two sessions alike. -/
theorem Alike.facing {c : Client} {s t : Session} (h : Alike c s t)
    (replies : Option (List Reply)) : Alike c (s.facing replies) (t.facing replies) where
  config := h.config
  replies := by rw [facing_replies, facing_replies, facedReplies, facedReplies, h.replies]
  sender := (sender?_congr rfl fun _ => facing_clients replies s).trans h.sender
  sender' := (sender?_congr rfl fun _ => facing_clients replies t).trans h.sender'

/-- **One step.** A step that keeps the client gives answers that agree in two sessions that are
alike, and leaves them alike. -/
theorem step_alike {c : Client} {s t : Session} (h : Alike c s t) {next : Step}
    (hnext : next.keepsClient = true) :
    (s.step next).1.shared = (t.step next).1.shared ∧ Alike c (s.step next).2 (t.step next).2 := by
  cases next with
  | isValid =>
      refine ⟨?_, h.config, h.replies, ?_, ?_⟩
      · simp only [step, Answer.shared, h.config]
      · exact (sender?_congr rfl fun _ => rfl).trans h.sender
      · exact (sender?_congr rfl fun _ => rfl).trans h.sender'
  | withDefaults => exact ⟨by simp only [step, Answer.shared, h.config], h⟩
  | defaultAlert =>
      have halert : (bare s.config).defaultAlert = (bare t.config).defaultAlert := by
        rw [h.bare]
      exact ⟨congrArg (fun alert => (Answer.alert alert).shared) halert, h⟩
  | set change => cases hnext
  | closeClient => cases hnext
  | render target =>
      rw [step_render_snd, step_render_snd, step_render_congr h.bare]
      exact ⟨rfl, h⟩
  | build target =>
      rw [step_build_snd, step_build_snd, step_build_congr h.bare]
      exact ⟨rfl, h⟩
  | send target evaluation replies =>
      cases haccepted : acceptedTarget target evaluation with
      | error faults =>
          rw [step_send_of_refused haccepted, step_send_of_refused haccepted]
          exact ⟨rfl, h.facing replies⟩
      | ok target =>
          have hjournal : (s.facing replies).world.journal = (t.facing replies).world.journal := by
            rw [facing_journal, facing_journal]
          rw [step_send_of_accepted haccepted, step_send_of_accepted haccepted]
          dsimp only
          exact sendTarget_alike (h.facing replies) hjournal target

/-- The requests of a send go out with the times that its client allows. -/
theorem sendTarget_timeouts {c : Client} {s : Session}
    (h : sender? s.config s.world s.client = some c) (hpage : s.world.journal = {})
    (target : Target) :
    ∀ sent ∈ (s.sendTarget target).1.journal.sent, sent.timeouts = c.timeouts := by
  obtain ⟨requests, -, hsent, -⟩ := send_streams s.config s.client target s.world
  rw [hpage, h] at hsent
  intro sent hmem
  rw [sendTarget_journal, sendTarget_world, hsent] at hmem
  obtain ⟨request, -, rfl⟩ := List.mem_map.mp hmem
  rfl

/-- The requests of a step go out with the times that the client of the next send allows. -/
theorem step_timeouts {c : Client} {s : Session} (h : sender? s.config s.world s.client = some c)
    {next : Step} {report : Report} (hreport : (s.step next).1 = .sent report) :
    ∀ sent ∈ report.journal.sent, sent.timeouts = c.timeouts := by
  obtain ⟨target, evaluation, replies, rfl⟩ | ⟨id, -, hstep⟩ | ⟨answer, config, hstep, hanswer⟩ :=
    s.step_cases next
  · cases haccepted : acceptedTarget target evaluation with
    | error faults =>
        rw [step_send_of_refused haccepted] at hreport
        cases hreport
    | ok target =>
        rw [step_send_of_accepted haccepted] at hreport
        obtain rfl := Answer.sent.inj hreport
        have hsender : sender? (s.facing replies).config (s.facing replies).world
            (s.facing replies).client = some c :=
          (sender?_congr rfl fun _ => facing_clients replies s).trans h
        exact sendTarget_timeouts hsender (facing_journal replies s) target
  · rw [hstep] at hreport
    cases hreport
  · rw [hstep] at hreport
    exact absurd hreport (hanswer report)

/-! ### All steps -/

/-- **All steps.** Steps that keep the client give answers that agree in two sessions that are
alike, and send with the times that the client allows. -/
theorem run_alike {c : Client} {s t : Session} (h : Alike c s t) {steps : List Step}
    (hsteps : ∀ step ∈ steps, step.keepsClient = true) :
    (s.run steps).1.map Answer.shared = (t.run steps).1.map Answer.shared ∧
      ∀ report, .sent report ∈ (s.run steps).1 →
        ∀ sent ∈ report.journal.sent, sent.timeouts = c.timeouts := by
  induction steps generalizing s t with
  | nil => exact ⟨rfl, by simp [run]⟩
  | cons first rest ih =>
      obtain ⟨hfirst, hrest⟩ := List.forall_mem_cons.mp hsteps
      obtain ⟨hanswer, hafter⟩ := step_alike h hfirst
      obtain ⟨hanswers, htimeouts⟩ := ih hafter hrest
      rw [run_cons, run_cons]
      refine ⟨by rw [List.map_cons, List.map_cons, hanswer, hanswers], ?_⟩
      intro report hreport
      rcases List.mem_cons.mp hreport with hreport | hreport
      · exact step_timeouts h.sender hreport.symm
      · exact htimeouts report hreport

/-- **The three ways to own a client agree.** Without assignments and without closing the client,
a session that opens a client for each send answers as one whose client options are filled in
beforehand, and as one that is given a client with these options: the same requests with the
same times, sent to a remote side that is verified alike, the same outcomes, streams and
records. -/
theorem run_answers_alike (config : Config) {steps : List Step}
    (hsteps : ∀ step ∈ steps, step.keepsClient = true) :
    let options := config.withDefaults.client.getD {}
    let own := ((start config none).run steps).1
    let filled := ((start config.withDefaults none).run steps).1
    let given := ((start config (some options.client)).run steps).1
    own.map Answer.shared = filled.map Answer.shared ∧
      own.map Answer.shared = given.map Answer.shared ∧
      ∀ report, .sent report ∈ own →
        ∀ sent ∈ report.journal.sent, sent.timeouts = .uniform options.timeout := by
  intro options own filled given
  have hfilled : Alike options.client (start config none) (start config.withDefaults none) :=
    ⟨rfl, rfl, rfl, rfl⟩
  have hgiven : Alike options.client (start config none) (start config (some options.client)) :=
    ⟨rfl, rfl, rfl, rfl⟩
  obtain ⟨hanswers, htimeouts⟩ := run_alike hfilled hsteps
  refine ⟨hanswers, (run_alike hgiven hsteps).1, ?_⟩
  intro report hreport sent hsent
  rw [htimeouts report hreport sent hsent]
  rfl

/-- An alert that cannot be built, a rejection and a body that breaks off, around the step that
fills in the missing client options. -/
theorem run_answers_alike_filled_late :
    let config : Config := { url := "http://h/[ENDPOINT_NAME]" }
    let broken : Response := { failure := some ⟨"ReadError", "reset"⟩ }
    let steps : List Step :=
      [.send { endpoint := .object [("name", .string "\n")] } (.object []) none,
       .send {} (.object []) (some [.response { status := 404, chunks := [[0x41]] }]),
       .isValid,
       .send {} (.object []) (some [.response broken])]
    let options : ClientOptions := {}
    let own := ((start config none).run steps).1
    (∀ step ∈ steps, step.keepsClient = true) ∧
      own.map Answer.shared = ((start config.withDefaults none).run steps).1.map Answer.shared ∧
      own.map Answer.shared =
        ((start config (some options.client)).run steps).1.map Answer.shared ∧
      ∀ report, .sent report ∈ own →
        ∀ sent ∈ report.journal.sent, sent.timeouts = .uniform options.timeout := by
  intro config broken steps options own
  have hsteps : ∀ step ∈ steps, step.keepsClient = true := by decide
  exact ⟨hsteps, run_answers_alike config hsteps⟩

end AlertRelay.Session

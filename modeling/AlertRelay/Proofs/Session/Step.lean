import AlertRelay.Proofs.Send.Exchanges
import AlertRelay.Session

/-!
# Steps and Runs of a Session

Facts about sessions that do not depend on what is to be proved of them: when a step gets as far
as a send, and how what every step keeps is kept by a run.

## Main results

* `Session.step_send_of_refused`, `Session.step_send_of_accepted`: the two ways of a send step.
* `Session.step_cases`: what a step can do.
* `Session.step_render_congr`, `Session.step_build_congr`: what rendering and building depend on.
* `Session.run_induction`: what each of some steps keeps, the run of these steps keeps.
-/

namespace AlertRelay.Session

open Http Schema

/-! ### Sends -/

/-- A send in a session, by the send that it makes. -/
theorem sendTarget_eq (target : Target) (s : Session) :
    s.sendTarget target =
      let sent := AlertRelay.send s.config s.client target s.world
      ({ outcome := sent.1
         journal := sent.2.2.journal
         hasOptions := sent.2.1.client.isSome
         clientsClosed := sent.2.2.clients.map (·.closed) },
        { s with config := sent.2.1, world := sent.2.2 }) := by
  unfold sendTarget
  generalize AlertRelay.send s.config s.client target s.world = sent
  rfl

/-- A send in a session ends as it would elsewhere. -/
theorem sendTarget_outcome (target : Target) (s : Session) :
    (s.sendTarget target).1.outcome =
      (AlertRelay.send s.config s.client target s.world).1 := by
  rw [sendTarget_eq]

/-- The configuration after a send is the one that the send leaves. -/
theorem sendTarget_config (target : Target) (s : Session) :
    (s.sendTarget target).2.config =
      (AlertRelay.send s.config s.client target s.world).2.1 := by
  rw [sendTarget_eq]

/-- The world after a send is the one that the send leaves. -/
theorem sendTarget_world (target : Target) (s : Session) :
    (s.sendTarget target).2.world =
      (AlertRelay.send s.config s.client target s.world).2.2 := by
  rw [sendTarget_eq]

/-- A send does not change which client was given. -/
@[simp] theorem sendTarget_client (target : Target) (s : Session) :
    (s.sendTarget target).2.client = s.client := by
  rw [sendTarget_eq]

/-- The report of a send shows the journal that the send leaves. -/
theorem sendTarget_journal (target : Target) (s : Session) :
    (s.sendTarget target).1.journal = (s.sendTarget target).2.world.journal := by
  rw [sendTarget_eq]

/-- A report tells which clients are closed after the send. -/
theorem sendTarget_clientsClosed (target : Target) (s : Session) :
    (s.sendTarget target).1.clientsClosed =
      (s.sendTarget target).2.world.clients.map (·.closed) := by
  rw [sendTarget_eq]

/-! ### Send steps -/

/-- The target of a send step, when its documents are accepted. -/
def acceptedTarget (target : TargetDocument) (evaluation : Json) :
    Except DocumentFaults Target := do
  let target ← target.read
  let _ ← readDocument Evaluation.recordName Evaluation.ofJson evaluation
  return target

/-- A session at the beginning of a send step: the page of the journal is new, and so are the
replies of the remote side if there are any. -/
def facing (replies : Option (List Reply)) (s : Session) : Session :=
  { s with world := s.world.newPage.load replies }

/-- The replies that the remote side has at the beginning of a send step. -/
def facedReplies (replies : Option (List Reply)) (s : Session) : List Reply :=
  replies.getD s.world.replies

/-- The beginning of a send step leaves the configuration. -/
@[simp] theorem facing_config (replies : Option (List Reply)) (s : Session) :
    (s.facing replies).config = s.config := rfl

/-- The beginning of a send step does not change which client was given. -/
@[simp] theorem facing_client (replies : Option (List Reply)) (s : Session) :
    (s.facing replies).client = s.client := rfl

/-- The beginning of a send step opens and closes no client. -/
@[simp] theorem facing_clients (replies : Option (List Reply)) (s : Session) :
    (s.facing replies).world.clients = s.world.clients := by
  cases replies <;> rfl

/-- A send step begins with an empty journal. -/
@[simp] theorem facing_journal (replies : Option (List Reply)) (s : Session) :
    (s.facing replies).world.journal = {} := by
  cases replies <;> rfl

/-- A send step faces the new replies, or those that are left. -/
@[simp] theorem facing_replies (replies : Option (List Reply)) (s : Session) :
    (s.facing replies).world.replies = s.facedReplies replies := by
  cases replies <;> rfl

/-- A send step checks its documents before it sends. -/
theorem step_send (s : Session) (target : TargetDocument) (evaluation : Json)
    (replies : Option (List Reply)) :
    s.step (.send target evaluation replies) =
      match acceptedTarget target evaluation with
      | .error faults => (.refused faults, s.facing replies)
      | .ok t => (.sent ((s.facing replies).sendTarget t).1, ((s.facing replies).sendTarget t).2) := by
  simp only [step, acceptedTarget, facing]
  cases target.read with
  | error faults => rfl
  | ok t =>
      cases readDocument Evaluation.recordName Evaluation.ofJson evaluation with
      | error faults => rfl
      | ok e => rfl

/-- A send step with a document that is not accepted sends nothing. -/
theorem step_send_of_refused {target : TargetDocument} {evaluation : Json}
    {faults : DocumentFaults} (h : acceptedTarget target evaluation = .error faults)
    (replies : Option (List Reply)) (s : Session) :
    s.step (.send target evaluation replies) = (.refused faults, s.facing replies) := by
  rw [step_send, h]

/-- A send step whose documents are accepted sends about their target. -/
theorem step_send_of_accepted {target : TargetDocument} {evaluation : Json} {t : Target}
    (h : acceptedTarget target evaluation = .ok t) (replies : Option (List Reply))
    (s : Session) :
    s.step (.send target evaluation replies) =
      (.sent ((s.facing replies).sendTarget t).1, ((s.facing replies).sendTarget t).2) := by
  rw [step_send, h]

/-! ### Rendering and building -/

/-- A configuration without its client options. -/
def bare (c : Config) : Config := { c with client := none }

/-- Client options that are filled in make no difference up to client options. -/
theorem bare_withDefaults (c : Config) : bare c.withDefaults = bare c := rfl

/-- Rendering does not look at client options. -/
theorem render_bare (c : Config) (t : Target) : (bare c).render t = c.render t := rfl

/-- Building a request does not look at client options. -/
theorem request_bare (c : Config) (t : Target) : (bare c).request t = c.request t := rfl

section

variable {c c' : Config} (h : bare c = bare c')

include h

/-- Configurations that agree up to client options are rendered alike. -/
theorem render_congr (t : Target) : c.render t = c'.render t := by
  rw [← render_bare c, h, render_bare]

/-- They make the same requests. -/
theorem request_congr (t : Target) : c.request t = c'.request t := by
  rw [← request_bare c, h, request_bare]

end

/-- A render step leaves the session. -/
@[simp] theorem step_render_snd (s : Session) (target : TargetDocument) :
    (s.step (.render target)).2 = s := by
  rw [step]
  split <;> rfl

/-- A build step leaves the session. -/
@[simp] theorem step_build_snd (s : Session) (target : TargetDocument) :
    (s.step (.build target)).2 = s := by
  rw [step]
  split
  · rfl
  · split <;> rfl

section

variable {s s' : Session} (h : bare s.config = bare s'.config)

include h

/-- Rendering depends on the configuration, and not on its client options. -/
theorem step_render_congr (target : TargetDocument) :
    (s.step (.render target)).1 = (s'.step (.render target)).1 := by
  simp only [step]
  cases target.read with
  | error faults => rfl
  | ok t =>
      dsimp only
      rw [render_congr h]

/-- Building depends on the configuration, and not on its client options. -/
theorem step_build_congr (target : TargetDocument) :
    (s.step (.build target)).1 = (s'.step (.build target)).1 := by
  simp only [step]
  cases target.read with
  | error faults => rfl
  | ok t =>
      dsimp only
      rw [request_congr h]
      cases s'.config.request t <;> rfl

end

/-! ### All steps -/

/-- **What a step does.** It is a send, or it closes the client that the session was given, or it
changes at most the configuration, and reports no send. -/
theorem step_cases (s : Session) (next : Step) :
    (∃ target evaluation replies, next = .send target evaluation replies) ∨
      (∃ id, s.client = some id ∧
        s.step next = (.closed, { s with world := s.world.closeClient id })) ∨
      ∃ answer config, s.step next = (answer, { s with config }) ∧
        ∀ report, answer ≠ .sent report := by
  cases next with
  | send target evaluation replies => exact .inl ⟨target, evaluation, replies, rfl⟩
  | isValid | withDefaults | defaultAlert => exact .inr (.inr ⟨_, _, rfl, fun _ => nofun⟩)
  | set change =>
      rw [step]
      split <;> exact .inr (.inr ⟨_, _, rfl, fun _ => nofun⟩)
  | render target =>
      rw [step]
      split <;> exact .inr (.inr ⟨_, _, rfl, fun _ => nofun⟩)
  | build target =>
      rw [step]
      split
      · exact .inr (.inr ⟨_, _, rfl, fun _ => nofun⟩)
      · split <;> exact .inr (.inr ⟨_, _, rfl, fun _ => nofun⟩)
  | closeClient =>
      rw [step]
      split
      · next id hclient => exact .inr (.inl ⟨id, hclient, rfl⟩)
      · exact .inr (.inr ⟨_, _, rfl, fun _ => nofun⟩)

/-- No step changes which client a session was given. -/
theorem step_client (s : Session) (next : Step) : (s.step next).2.client = s.client := by
  obtain ⟨target, evaluation, replies, rfl⟩ | ⟨id, -, h⟩ | ⟨answer, config, h, -⟩ :=
    s.step_cases next
  · cases haccepted : acceptedTarget target evaluation with
    | error faults => rw [step_send_of_refused haccepted, facing_client]
    | ok t => rw [step_send_of_accepted haccepted, sendTarget_client, facing_client]
  · rw [h]
  · rw [h]

/-! ### Runs -/

/-- The first of several steps, and the rest. -/
theorem run_cons (s : Session) (first : Step) (rest : List Step) :
    s.run (first :: rest) =
      ((s.step first).1 :: ((s.step first).2.run rest).1, ((s.step first).2.run rest).2) := rfl

/-- What each of some steps keeps, the run of these steps keeps. -/
theorem run_induction {P : Session → Prop} (steps : List Step)
    (hstep : ∀ s, ∀ step ∈ steps, P s → P (s.step step).2) {s : Session} (h : P s) :
    P (s.run steps).2 := by
  induction steps generalizing s with
  | nil => exact h
  | cons first rest ih =>
      rw [run_cons]
      exact ih (fun s step hmem => hstep s step (List.mem_cons_of_mem first hmem))
        (hstep s first List.mem_cons_self h)

/-- No step changes which client was given. -/
theorem run_client (s : Session) (steps : List Step) : (s.run steps).2.client = s.client :=
  run_induction (P := fun t => t.client = s.client) steps
    (fun t step _ h => (step_client t step).trans h) rfl

/-- A session starts with its configuration. -/
theorem start_config (config : Config) (client : Option Client) :
    (start config client).config = config := by
  cases client <;> rfl

end AlertRelay.Session

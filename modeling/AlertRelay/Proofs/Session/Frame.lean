import AlertRelay.Proofs.Session.Step

/-!
# The Configuration of a Session

Sending, rendering and building read the configuration and leave it alone. The one thing that a
step other than an assignment writes is a default: client options that are missing are filled
in by a validity check, and by a send that opens a client of its own.

So the configuration at any point is the one that the assignments made, up to client options,
and what a template becomes does not depend on the history of the session.

## Main results

* `Session.step_frame`: a step that is no assignment changes nothing but client options.
* `Session.step_fills_iff`: **when client options are filled in.**
* `Session.run_eq_assigned`: the configuration is the one that the assignments made.
* `Session.run_frame`: **the frame of a whole session**, and its independence of history.
-/

namespace AlertRelay.Session

open Http Schema

/-- An assignment of a field. -/
def Step.isAssignment : Step → Bool
  | .set _ => true
  | .isValid | .withDefaults | .defaultAlert | .render _ | .build _ | .closeClient | .send .. =>
    false

/-- The steps that fill in client options which are missing: a validity check, and a send without
a client, once its documents are accepted and its request is built. -/
def FillsOptions (s : Session) : Step → Prop
  | .isValid => True
  | .send target evaluation _ =>
      s.client = none ∧ ∃ t request, acceptedTarget target evaluation = .ok t ∧
        s.config.request t = .ok request
  | .withDefaults | .defaultAlert | .set _ | .render _ | .build _ | .closeClient => False

/-- A configuration after the assignments among some steps. One that is refused changes nothing. -/
def assigned (config : Config) (steps : List Step) : Config :=
  steps.foldl (fun config step =>
    match step with
    | .set change => (change.apply config).toOption.getD config
    | _ => config) config

/-! ### One step -/

/-- A step that is no assignment leaves the configuration, or fills in its client options. -/
theorem step_config_cases (s : Session) {next : Step} (hnext : next.isAssignment = false) :
    (s.FillsOptions next ∧ (s.step next).2.config = s.config.withDefaults) ∨
      (¬s.FillsOptions next ∧ (s.step next).2.config = s.config) := by
  cases next with
  | isValid => exact .inl ⟨trivial, rfl⟩
  | withDefaults | defaultAlert => exact .inr ⟨id, rfl⟩
  | set change => cases hnext
  | render target => exact .inr ⟨id, by rw [step_render_snd]⟩
  | build target => exact .inr ⟨id, by rw [step_build_snd]⟩
  | closeClient =>
      refine .inr ⟨id, ?_⟩
      rw [step]
      split <;> rfl
  | send target evaluation replies =>
      cases haccepted : acceptedTarget target evaluation with
      | error faults =>
          refine .inr ⟨?_, by rw [step_send_of_refused haccepted, facing_config]⟩
          rintro ⟨-, t, request, haccepted', -⟩
          rw [haccepted] at haccepted'
          cases haccepted'
      | ok t =>
          rw [step_send_of_accepted haccepted, sendTarget_config, send_config, facing_config,
            facing_client]
          split
          · next h =>
              obtain ⟨hclient, hbuilt⟩ := h
              cases hrequest : s.config.request t with
              | error failure =>
                  rw [hrequest] at hbuilt
                  cases hbuilt
              | ok request => exact .inl ⟨⟨hclient, t, request, haccepted, hrequest⟩, rfl⟩
          · next h =>
              refine .inr ⟨?_, rfl⟩
              rintro ⟨hclient, t', request, haccepted', hrequest⟩
              rw [haccepted] at haccepted'
              cases haccepted'
              exact h ⟨hclient, by rw [hrequest]; rfl⟩

/-- **The frame of a step.** A step that is no assignment changes nothing but client options. -/
theorem step_frame (s : Session) {next : Step} (hnext : next.isAssignment = false) :
    (s.step next).2.config = { s.config with client := (s.step next).2.config.client } := by
  obtain ⟨-, h⟩ | ⟨-, h⟩ := step_config_cases s hnext
  · rw [h]
    rfl
  · rw [h]

/-- **When client options are filled in.** Options that are there stay; where there are none, the
default ones are filled in at exactly the steps that do so. -/
theorem step_fills_iff (s : Session) {next : Step} (hnext : next.isAssignment = false) :
    ((s.step next).2.config.client ≠ s.config.client ↔
        s.config.client = none ∧ s.FillsOptions next) ∧
      ((s.step next).2.config.client ≠ s.config.client →
        (s.step next).2.config.client = some {}) := by
  obtain ⟨hfills, h⟩ | ⟨hfills, h⟩ := step_config_cases s hnext
  · rw [h, Config.withDefaults]
    cases s.config.client with
    | none => simp [hfills]
    | some options => simp
  · rw [h]
    simp [hfills]

/-! ### All steps -/

/-- An assignment does not look at the client options. -/
theorem bare_assign (change : Change) (c : Config) :
    bare ((change.apply c).toOption.getD c) =
      bare ((change.apply (bare c)).toOption.getD (bare c)) := by
  cases change with
  | url _ | method _ | body _ | headers _ | placeholders _ => rfl
  | client document =>
      simp only [Change.apply]
      cases readDocument ClientOptions.recordName (optional ClientOptions.ofJson) document <;> rfl
  | defaultAlert document =>
      simp only [Change.apply]
      cases readDocument Alert.recordName (optional Alert.ofJson) document <;> rfl

/-- Assignments to configurations that agree up to client options keep them so. -/
theorem bare_assigned_congr {c c' : Config} (h : bare c = bare c') (steps : List Step) :
    bare (assigned c steps) = bare (assigned c' steps) := by
  induction steps generalizing c c' with
  | nil => exact h
  | cons first rest ih =>
      cases first with
      | set change =>
          refine ih ?_
          rw [bare_assign change c, bare_assign change c', h]
      | isValid | withDefaults | defaultAlert | render _ | build _ | closeClient | send =>
          exact ih h

/-- An assignment gives the configuration that it makes, or the one before if it is refused. -/
theorem step_set_config (s : Session) (change : Change) :
    (s.step (.set change)).2.config = (change.apply s.config).toOption.getD s.config := by
  rw [step]
  cases change.apply s.config <;> rfl

/-- One step makes what its assignment makes, up to client options. -/
theorem bare_step (s : Session) (next : Step) :
    bare (s.step next).2.config = bare (assigned s.config [next]) := by
  cases next with
  | set change =>
      rw [step_set_config]
      rfl
  | isValid | withDefaults | defaultAlert | render _ | build _ | closeClient | send =>
      rw [step_frame s rfl]
      rfl

/-- **What a session makes of its configuration.** At any point it is the configuration that the
assignments so far made, up to client options. -/
theorem run_eq_assigned (s : Session) (steps : List Step) :
    bare (s.run steps).2.config = bare (assigned s.config steps) := by
  induction steps generalizing s with
  | nil => rfl
  | cons first rest ih =>
      calc bare (s.run (first :: rest)).2.config
          = bare (assigned (s.step first).2.config rest) := by rw [run_cons]; exact ih _
        _ = bare (assigned (assigned s.config [first]) rest) :=
            bare_assigned_congr (bare_step s first) rest
        _ = bare (assigned s.config (first :: rest)) := rfl

/-! ### The whole session -/

/-- **The frame of a session.** Let any steps have been taken, and let one more be taken. If it
is no assignment, then nothing of the configuration changes but client options; these change
exactly when there are none and the step is one that fills them in, and then to the default ones.
A copy with defaults differs from the configuration in missing client options only, and leaves
the session as it is. What the template becomes, for any target, is what it becomes in a fresh
session on the configuration that the assignments made, with any client. -/
theorem run_frame (config : Config) (given : Option Client) (steps : List Step) (next : Step) :
    let s := ((start config given).run steps).2
    (next.isAssignment = false →
      (s.step next).2.config = { s.config with client := (s.step next).2.config.client } ∧
        ((s.step next).2.config.client ≠ s.config.client ↔
          s.config.client = none ∧ s.FillsOptions next) ∧
        ((s.step next).2.config.client ≠ s.config.client →
          (s.step next).2.config.client = some {})) ∧
      s.step .withDefaults =
        (.copy { s.config with client := some (s.config.client.getD {}) } s.config.client, s) ∧
      ∀ target fresh,
        (s.step (.render target)).1 =
            ((start (assigned config steps) fresh).step (.render target)).1 ∧
          (s.step (.build target)).1 =
            ((start (assigned config steps) fresh).step (.build target)).1 := by
  intro s
  have hbare (fresh : Option Client) :
      bare s.config = bare (start (assigned config steps) fresh).config := by
    rw [start_config]
    exact (run_eq_assigned _ steps).trans (by rw [start_config])
  refine ⟨fun hnext => ⟨step_frame s hnext, step_fills_iff s hnext⟩, rfl, fun target fresh => ?_⟩
  exact ⟨step_render_congr (hbare fresh) target, step_build_congr (hbare fresh) target⟩

/-- A check after an assignment and a rejected document fills in the options, and nothing else. -/
theorem run_frame_check :
    let s := ((start {} none).run [.set (.url "http://h/"), .set (.client (.bool true))]).2
    Step.isValid.isAssignment = false ∧
      (s.step .isValid).2.config = { s.config with client := (s.step .isValid).2.config.client } ∧
      (s.step .isValid).2.config.client ≠ s.config.client := by
  have h := (run_frame {} none [.set (.url "http://h/"), .set (.client (.bool true))] .isValid).1 rfl
  exact ⟨rfl, h.1, h.2.1.mpr ⟨rfl, trivial⟩⟩

end AlertRelay.Session

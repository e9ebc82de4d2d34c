import AlertRelay.Proofs.Service.Originals

/-!
# The Protocol of the Installed Container

Which container is installed follows an automaton over the demands of the steps: a step that
needs a container keeps the installed one, and puts one together from the environment where there
is none; other steps install what they put together, remove what is installed, or leave it alone.

Putting a container together can fail, in any of these steps. A failure is **atomic**. The answer
tells what was in the way, and apart from that it is as if the step had not been tried: the same
container is installed, nothing is added to the containers, no client is created for the one that
failed, and the configuration that was passed in is as it was.

## Main results

* `Process.run_protocol`: **every step of every run keeps to the protocol**.
-/

namespace AlertRelay

open Http App

/-- The clients that were made for a container before an obstacle is met. A client is made by the
caller, to pass it in, once the document of the configuration is accepted. -/
def App.Plan.clientsBefore (plan : Plan) : Obstacle → List Client
  | .refused _ => []
  | .failed _ => plan.givenClients

namespace Process

/-- What a step has to keep to, in a process. -/
structure Protocol (env : Environment) (s : App.Step) (p : Process) : Prop where
  /-- A step that carries out no plan puts nothing together. It leaves, or removes, what is
  installed. -/
  idle : s.plan? p.app.installed = none →
    (p.app.step env s).1.obstacle? = none ∧
    (p.use (.step env s)).app.containers = p.app.containers ∧
    (p.use (.step env s)).originals = p.originals ∧
    (p.use (.step env s)).app.installed = s.demand.next p.app.installed none
  /-- A plan that leads to a configuration adds the container of it, with a client, and it is
  installed where the step demands that. -/
  builds : ∀ (plan : Plan) (config : Config), s.plan? p.app.installed = some plan →
    plan.outcome env = .ok config →
    (p.app.step env s).1.obstacle? = none ∧
    (p.use (.step env s)).app.containers =
      p.app.containers ++ [plan.container config p.app.world.clients.length] ∧
    (p.use (.step env s)).app.world.clients = p.app.world.clients ++ [plan.clientFor config] ∧
    (p.use (.step env s)).app.installed =
      s.demand.next p.app.installed (some p.app.containers.length)
  /-- An obstacle is told, and nothing else happens: no client is there that was not made for the
  container before. -/
  fails : ∀ (plan : Plan) (obstacle : Obstacle), s.plan? p.app.installed = some plan →
    plan.outcome env = .error obstacle →
    (p.app.step env s).1.obstacle? = some obstacle ∧
    (p.use (.step env s)).app.containers = p.app.containers ∧
    (p.use (.step env s)).app.world.clients =
      p.app.world.clients ++ plan.clientsBefore obstacle ∧
    (p.use (.step env s)).app.installed = p.app.installed ∧
    ∀ config, plan.original env = .ok config →
      (p.use (.step env s)).originals = p.originals ++ [⟨config, none⟩]
  /-- Where nothing was installed, the next time that the container is asked for, it is the one
  of the environment of that time, and it is installed. -/
  retries : ∀ (plan : Plan) (obstacle : Obstacle), s.plan? p.app.installed = some plan →
    plan.outcome env = .error obstacle → p.app.installed = none →
    ∀ (env' : Environment) (config : Config), Config.ofEnvironment env' = .ok config →
      let after := (p.use (.step env s)).app
      (after.step env' .get).1 =
          .container p.app.containers.length
            (({} : Plan).container config.withDefaults after.world.clients.length) ∧
        (after.step env' .get).2.installed = some p.app.containers.length

end Process

/-! ### The cases of a step -/

section

variable {env : Environment} {s : App.Step} {h h' : Holdings} {told : Option Obstacle}

/-- What a step does that carries out no plan. -/
theorem App.Follows.of_no_plan (hfollows : Follows env s h told h')
    (hplan : s.plan? h.installed = none) :
    told = none ∧ h'.containers = h.containers ∧
      h'.installed = s.demand.next h.installed none := by
  cases hfollows with
  | idle => exact ⟨rfl, rfl, rfl⟩
  | refuses hsome | fails hsome | builds hsome => cases hplan.symm.trans hsome

/-- What a step does whose plan leads to a container. -/
theorem App.Follows.of_ok (hfollows : Follows env s h told h') {plan : Plan} {config : Config}
    (hplan : s.plan? h.installed = some plan) (houtcome : plan.outcome env = .ok config) :
    told = none ∧
      h' = ⟨h.clients ++ [plan.clientFor config],
        h.containers ++ [plan.container config h.clients.length],
        s.demand.next h.installed (some h.containers.length)⟩ := by
  cases hfollows with
  | idle hnone => cases hnone.symm.trans hplan
  | refuses hsome herror | fails hsome herror =>
      obtain rfl := Option.some.inj (hsome.symm.trans hplan)
      cases herror.symm.trans houtcome
  | builds hsome hok =>
      obtain rfl := Option.some.inj (hsome.symm.trans hplan)
      obtain rfl := Except.ok.inj (hok.symm.trans houtcome)
      exact ⟨rfl, rfl⟩

/-- What a step does whose plan meets an obstacle. -/
theorem App.Follows.of_error (hfollows : Follows env s h told h') {plan : Plan}
    {obstacle : Obstacle} (hplan : s.plan? h.installed = some plan)
    (houtcome : plan.outcome env = .error obstacle) :
    told = some obstacle ∧
      h' = { h with clients := h.clients ++ plan.clientsBefore obstacle } := by
  cases hfollows with
  | idle hnone => cases hnone.symm.trans hplan
  | refuses hsome herror =>
      obtain rfl := Option.some.inj (hsome.symm.trans hplan)
      obtain rfl := Except.error.inj (herror.symm.trans houtcome)
      exact ⟨rfl, by rw [Plan.clientsBefore, List.append_nil]⟩
  | fails hsome herror =>
      obtain rfl := Option.some.inj (hsome.symm.trans hplan)
      obtain rfl := Except.error.inj (herror.symm.trans houtcome)
      exact ⟨rfl, rfl⟩
  | builds hsome hok =>
      obtain rfl := Option.some.inj (hsome.symm.trans hplan)
      cases hok.symm.trans houtcome

end

/-! ### Asking for a container -/

/-- Where nothing is installed, asking for the container puts the one of the environment together,
installs it and answers it. -/
theorem App.step_get_of_none {app : App} (hinstalled : app.installed = none) {env : Environment}
    {config : Config} (henv : Config.ofEnvironment env = .ok config) :
    (app.step env .get).1 =
        .container app.containers.length
          (({} : Plan).container config.withDefaults app.world.clients.length) ∧
      (app.step env .get).2.installed = some app.containers.length := by
  let page : App := { app with world := app.world.newPage }
  have houtcome : ({} : Plan).outcome env = .ok config.withDefaults := by
    rw [Plan.outcome, Plan.original, henv]
    rfl
  obtain ⟨id, hsome, -⟩ | ⟨-, ⟨fault, hfault, -⟩ | ⟨built, app', hbuilt, hget, hafter⟩⟩ :=
    page.get_cases env
  · cases hsome.symm.trans hinstalled
  · cases hfault.symm.trans houtcome
  · obtain rfl : built = config.withDefaults := Except.ok.inj (hbuilt.symm.trans houtcome)
    have hcontainers : app'.containers =
        app.containers ++ [({} : Plan).container config.withDefaults app.world.clients.length] :=
      congrArg Holdings.containers hafter
    have hid : app'.installed = some app.containers.length := congrArg Holdings.installed hafter
    have hstep : app.step env .get =
        app'.describe app.containers.length (.container app.containers.length) := by
      rw [step.eq_def]
      dsimp only
      rw [show App.get env { app with world := app.world.newPage } = _ from hget]
    rw [hstep, describe, hcontainers, List.getElem?_concat_length]
    exact ⟨rfl, hid⟩

namespace Process

/-! ### Every step of every run -/

/-- **The protocol of the installed container.** Every step keeps to it, after any uses of the
process. -/
theorem run_protocol (uses : List Use) (env : Environment) (s : App.Step) :
    Protocol env s (run uses) := by
  generalize hp : run uses = p
  have hsound : p.Sound := hp ▸ run_sound uses
  obtain ⟨heq, -, -⟩ := useStep_eq hsound env s
  have happ : (p.use (.step env s)).app = (p.app.step env s).2 := congrArg Process.app heq
  have horiginals : (p.use (.step env s)).originals = p.originals ++ copied env s p.app :=
    congrArg Process.originals heq
  have hfollows := step_follows env p.app s
  refine ⟨?_, ?_, ?_, ?_⟩ <;> rw [happ]
  · intro hplan
    obtain ⟨htold, hcontainers, hinstalled⟩ := hfollows.of_no_plan hplan
    refine ⟨htold, hcontainers, ?_, hinstalled⟩
    rw [horiginals, copied, hplan, List.append_nil]
  · intro plan config hplan houtcome
    obtain ⟨htold, hafter⟩ := hfollows.of_ok hplan houtcome
    exact ⟨htold, congrArg Holdings.containers hafter, congrArg Holdings.clients hafter,
      congrArg Holdings.installed hafter⟩
  · intro plan obstacle hplan houtcome
    obtain ⟨htold, hafter⟩ := hfollows.of_error hplan houtcome
    have hcontainers : (p.app.step env s).2.containers = p.app.containers :=
      congrArg Holdings.containers hafter
    refine ⟨htold, hcontainers, congrArg Holdings.clients hafter,
      congrArg Holdings.installed hafter, ?_⟩
    intro config horiginal
    rw [horiginals, copied_of_original hplan horiginal, houtcome]
    rfl
  · intro plan obstacle hplan houtcome hnone env' config henv
    obtain ⟨-, hafter⟩ := hfollows.of_error hplan houtcome
    have hcontainers : (p.app.step env s).2.containers = p.app.containers :=
      congrArg Holdings.containers hafter
    have hinstalled : (p.app.step env s).2.installed = none :=
      (congrArg Holdings.installed hafter).trans hnone
    have hget := step_get_of_none hinstalled henv
    rwa [hcontainers] at hget

end Process

end AlertRelay

import AlertRelay.Proofs.Send.Exchanges
import AlertRelay.Service.App
import Mathlib.Data.List.Induction

/-!
# Steps of the Service

What the process **holds** is its clients, its containers, and which of these is installed. Most
steps read this and log or send; what they can do to it is little. A step can put one container
together around a new client, and install it; it can close one container; and a container whose
client was created for it in advance can fail to be put together, so that only the client is
left. Nothing is ever removed, and nothing is opened again.

Over a run, what happened is told by its **moments**: a step, and the process before it.

## Main results

* `App.step_change`: everything that a step can do to what the process holds.
* `App.run_append_singleton`, `App.happens_append_singleton`: one more step of a run.
* `App.happens_iff`: what a run has brought about, from what each step can bring about.
-/

namespace AlertRelay

open Http

/-! ### Putting a container together -/

/-- A warning opens and closes no client. -/
theorem warnUnlessValid_clients (valid : Bool) (w : World) :
    (Container.warnUnlessValid valid w).clients = w.clients := by
  cases valid <;> rfl

/-- A container that is given a client takes it and does not own it. -/
theorem Container.assemble_given (config : Option Config) (id : ℕ) (strict : Bool)
    (env : Environment) (w : World) :
    (∃ fault w', assemble config (some id) strict env w = (.error fault, w') ∧
        w'.clients = w.clients) ∨
      ∃ container w', assemble config (some id) strict env w = (.ok container, w') ∧
        w'.clients = w.clients ∧ container.client = id ∧ container.ownsClient = false := by
  rw [assemble, assembly]
  cases chooseConfig config env with
  | error fault => exact .inl ⟨fault, w, rfl, rfl⟩
  | ok original =>
      dsimp only
      split
      · exact .inl ⟨_, w, rfl, rfl⟩
      · exact .inr ⟨_, _, rfl, warnUnlessValid_clients _ w, rfl, rfl⟩

/-- A client that is made from options is open. -/
theorem ClientOptions.client_closed (o : ClientOptions) : o.client.closed = false := rfl

/-- A container that is given no client owns one that is opened for it. -/
theorem Container.assemble_own (config : Option Config) (strict : Bool) (env : Environment)
    (w : World) :
    (∃ fault w', assemble config none strict env w = (.error fault, w') ∧
        w'.clients = w.clients) ∨
      ∃ container w' c, assemble config none strict env w = (.ok container, w') ∧
        w'.clients = w.clients ++ [c] ∧ c.closed = false ∧
        container.client = w.clients.length ∧ container.ownsClient = true := by
  rw [assemble, assembly]
  cases chooseConfig config env with
  | error fault => exact .inl ⟨fault, w, rfl, rfl⟩
  | ok original =>
      dsimp only
      split
      · exact .inl ⟨_, w, rfl, rfl⟩
      · have hopen := (original.withDefaults.client.getD {}).client_closed
        refine .inr ⟨_, _, _, rfl, ?_, hopen, ?_, rfl⟩
        · rw [World.openClient, warnUnlessValid_clients]
        · rw [World.openClient, warnUnlessValid_clients]

/-- A container sends through a client that is there, so it opens and closes none. -/
theorem Container.send_clients (container : Container) (target : Target) (w : World) :
    (container.send target w).2.clients = w.clients := by
  obtain ⟨own, hclients, -, hnone⟩ :=
    AlertRelay.send_clients container.config (some container.client) target w
  rw [Container.send, hclients, hnone rfl, List.append_nil]

namespace App

/-! ### What the process holds -/

/-- The clients and the containers of the process, and the number of the installed container. -/
structure Holdings where
  clients : List Client
  containers : List Container
  installed : Option ℕ

/-- What the process holds. -/
def holdings (app : App) : Holdings := ⟨app.world.clients, app.containers, app.installed⟩

/-- The clients after a container is closed. -/
def Holdings.released (h : Holdings) (id : ℕ) : List Client :=
  match h.containers[id]? with
  | some container =>
    if container.ownsClient then
      h.clients.modify container.client fun c => { c with closed := true }
    else
      h.clients
  | none => h.clients

/-- Whether a step creates a client to give it to a container. -/
def Step.gives : Step → Bool
  | .new plan | .init plan => plan.client.isSome
  | .initDefault | .get | .close | .closeOne _ | .start _ | .stop | .request .. => false

/-- Whether a step installs the container that it puts together in place of any other. -/
def Step.replaces : Step → Bool
  | .init _ | .initDefault => true
  | .new _ | .get | .close | .closeOne _ | .start _ | .stop | .request .. => false

/-- Whether a step removes the installed container. -/
def Step.removes : Step → Bool
  | .close | .stop => true
  | .new _ | .init _ | .initDefault | .get | .closeOne _ | .start _ | .request .. => false

/-- The container that a step closes: the one that it names, or the installed one. -/
def Step.closes (installed : Option ℕ) : Step → Option ℕ
  | .closeOne id => some id
  | .close | .stop => installed
  | .new _ | .init _ | .initDefault | .get | .start _ | .request .. => none

/-- A step closes the container that it names, or the installed one that it removes. -/
theorem Step.closes_eq_some {s : Step} {installed : Option ℕ} {id : ℕ} :
    s.closes installed = some id ↔ s = .closeOne id ∨ s.removes = true ∧ installed = some id := by
  cases s <;> simp [closes, removes]

/-- **What a step can do** to what the process holds. -/
inductive Change (s : Step) (h : Holdings) : Holdings → Prop
  | keeps : s.closes h.installed = none → Change s h h
  | gives {c : Client} :
      s.closes h.installed = none →
      s.gives = true →
      c.closed = false →
      Change s h { h with clients := h.clients ++ [c] }
  | builds {c : Client} {container : Container} {installed : Option ℕ} :
      s.closes h.installed = none →
      c.closed = false →
      container.client = h.clients.length →
      container.ownsClient = !s.gives →
      installed = h.installed ∨
        installed = some h.containers.length ∧ (h.installed = none ∨ s.replaces = true) →
      Change s h ⟨h.clients ++ [c], h.containers ++ [container], installed⟩
  | closes {id : ℕ} :
      s.closes h.installed = some id →
      Change s h ⟨h.released id, h.containers, if s.removes then none else h.installed⟩

/-! ### Operations that hold on to nothing new -/

/-- Installing what is installed changes nothing. -/
theorem holdings_install {app : App} {id : ℕ} (h : app.installed = some id) :
    (app.install id).holdings = app.holdings := by
  simp only [holdings, install, log, World.log, h]

/-- A description changes nothing. -/
theorem describe_snd (id : ℕ) (app : App) (answer : Container → Answer) :
    (app.describe id answer).2 = app := by
  rw [describe]
  split <;> rfl

/-- Sending a test changes nothing of what the process holds. -/
theorem sendTest_holdings (container : Container) (request : TestRequest) (app : App) :
    (sendTest container request app).2.holdings = app.holdings := by
  have hclients := container.send_clients
    { endpoint := testEndpoint
      alert := testAlert container.config request
      resolved := request.resolved } app.world
  unfold sendTest
  dsimp only
  split
  · simp only [holdings, hclients]
  · next failure _ => cases failure <;> simp only [holdings, log, World.log, hclients]

/-- A test changes nothing of what the process holds. -/
theorem test_holdings (request : TestRequest) (container : Container) (app : App) :
    (test request container app).2.holdings = app.holdings := by
  rw [test]
  split
  · exact sendTest_holdings container request app
  · rfl

/-! ### Operations on containers -/

section

variable (app : App)

/-- What putting a container together around a client that is given does. -/
theorem assemble_given (config : Option Config) (id : ℕ) (strict : Bool) (env : Environment) :
    (∃ fault app', app.assemble config (some id) strict env = (.error fault, app') ∧
        app'.holdings = app.holdings) ∨
      ∃ app' container,
        app.assemble config (some id) strict env = (.ok app.containers.length, app') ∧
        container.client = id ∧ container.ownsClient = false ∧
        app'.holdings = ⟨app.world.clients, app.containers ++ [container], app.installed⟩ := by
  rw [assemble]
  obtain ⟨fault, w, h, hclients⟩ | ⟨container, w, h, hclients, hclient, howns⟩ :=
    Container.assemble_given config id strict env app.world
  · rw [h]
    exact .inl ⟨fault, _, rfl, by simp only [holdings, hclients]⟩
  · rw [h]
    exact .inr ⟨_, container, rfl, hclient, howns, by simp only [holdings, hclients]⟩

/-- What putting a container together around a client of its own does. -/
theorem assemble_own (config : Option Config) (strict : Bool) (env : Environment) :
    (∃ fault app', app.assemble config none strict env = (.error fault, app') ∧
        app'.holdings = app.holdings) ∨
      ∃ app' c container,
        app.assemble config none strict env = (.ok app.containers.length, app') ∧
        c.closed = false ∧ container.client = app.world.clients.length ∧
        container.ownsClient = true ∧
        app'.holdings =
          ⟨app.world.clients ++ [c], app.containers ++ [container], app.installed⟩ := by
  rw [assemble]
  obtain ⟨fault, w, h, hclients⟩ | ⟨container, w, c, h, hclients, hopen, hclient, howns⟩ :=
    Container.assemble_own config strict env app.world
  · rw [h]
    exact .inl ⟨fault, _, rfl, by simp only [holdings, hclients]⟩
  · rw [h]
    exact .inr ⟨_, c, container, rfl, hopen, hclient, howns, by simp only [holdings, hclients]⟩

/-- Getting the installed container puts one together where there is none. What it answers is
installed. -/
theorem get_change {s : Step} (hcloses : s.closes app.installed = none)
    (hgives : s.gives = false) (env : Environment) :
    Change s app.holdings (app.get env).2.holdings ∧
      ∀ id, (app.get env).1 = .ok id → (app.get env).2.installed = some id := by
  rw [get]
  cases hinstalled : app.installed with
  | some id =>
      refine ⟨.keeps hcloses, fun other hother => ?_⟩
      cases hother
      exact hinstalled
  | none =>
      obtain ⟨fault, app', h, hholdings⟩ |
          ⟨app', c, container, h, hopen, hclient, howns, hholdings⟩ :=
        app.assemble_own none false env
      · simp only [h]
        rw [hholdings]
        exact ⟨.keeps hcloses, nofun⟩
      · simp only [h]
        refine ⟨?_, fun other hother => congrArg some (Except.ok.inj hother)⟩
        have hafter : holdings { app' with installed := some app.containers.length } =
            ⟨app.holdings.clients ++ [c], app.holdings.containers ++ [container],
              some app.holdings.containers.length⟩ := by
          have hclients : app'.world.clients = _ := congrArg Holdings.clients hholdings
          have hcontainers : app'.containers = _ := congrArg Holdings.containers hholdings
          simp only [holdings, hclients, hcontainers]
        rw [hafter]
        exact .builds hcloses hopen hclient (by rw [howns, hgives]; rfl)
          (.inr ⟨rfl, .inl hinstalled⟩)

variable {app} in
/-- Installing the container that was put together, or leaving the installed one. -/
theorem change_of_assembled {s : Step} {app' : App} {c : Client} {container : Container}
    {installs : Bool} (hcloses : s.closes app.installed = none)
    (hinstalls : installs = true → s.replaces = true) (hopen : c.closed = false)
    (hclient : container.client = app.world.clients.length) (howns : container.ownsClient = !s.gives)
    (hholdings : app'.holdings =
      ⟨app.world.clients ++ [c], app.containers ++ [container], app.installed⟩) :
    Change s app.holdings
      (if installs then app'.install app.containers.length else app').holdings := by
  cases installs with
  | false =>
      rw [if_neg Bool.false_ne_true, hholdings]
      exact .builds hcloses hopen hclient howns (.inl rfl)
  | true =>
      have hafter : (app'.install app.containers.length).holdings =
          { app'.holdings with installed := some app.containers.length } := rfl
      rw [if_pos rfl, hafter, hholdings]
      exact .builds hcloses hopen hclient howns (.inr ⟨rfl, .inr (hinstalls rfl)⟩)

/-- Building the container of a plan. The client that is given to it is there before it is put
together, and stays when this fails. -/
theorem build_change {s : Step} (plan : Plan) (installs : Bool)
    (hcloses : s.closes app.installed = none) (hgives : s.gives = plan.client.isSome)
    (hinstalls : installs = true → s.replaces = true) (env : Environment) :
    Change s app.holdings (app.build plan installs env).2.holdings := by
  rw [build]
  cases plan.readConfig with
  | error faults => exact .keeps hcloses
  | ok config =>
      cases hplan : plan.client with
      | none =>
          have howns : s.gives = false := by rw [hgives, hplan]; rfl
          simp only [Plan.openClient, hplan]
          obtain ⟨fault, app', h, hholdings⟩ |
              ⟨app', c, container, h, hopen, hclient, hown, hholdings⟩ :=
            app.assemble_own config plan.strict env
          · simp only [h]
            rw [hholdings]
            exact .keeps hcloses
          · simp only [h, describe_snd]
            exact change_of_assembled hcloses hinstalls hopen hclient (by rw [hown, howns]; rfl)
              hholdings
      | some followRedirects =>
          have hgiven : s.gives = true := by rw [hgives, hplan]; rfl
          let c : Client := { timeouts := givenTimeouts, followRedirects }
          let app₁ : App := { app with world := (app.world.openClient c).1 }
          have hopened : plan.openClient app = (some app.world.clients.length, app₁) := by
            simp only [Plan.openClient, hplan]
            rfl
          simp only [hopened]
          obtain ⟨fault, app', h, hholdings⟩ |
              ⟨app', container, h, hclient, hown, hholdings⟩ :=
            app₁.assemble_given config app.world.clients.length plan.strict env
          · simp only [h]
            rw [hholdings]
            exact .gives hcloses hgiven rfl
          · simp only [h, describe_snd]
            exact change_of_assembled hcloses hinstalls rfl hclient (by rw [hown, hgiven]; rfl)
              hholdings

/-- Starting the service makes sure that a container is installed, and installs it again. -/
theorem start_change {s : Step} (hcloses : s.closes app.installed = none)
    (hgives : s.gives = false) (level : String) (env : Environment) :
    Change s app.holdings (app.start level env).2.holdings := by
  let starting : App :=
    announce "🚀 Starting Webhook Alert Server" { app with console := app.console.setUp level }
  obtain ⟨hchange, hinstalled⟩ := starting.get_change hcloses hgives env
  obtain ⟨result, app', h⟩ : ∃ result app', starting.get env = (result, app') := ⟨_, _, rfl⟩
  rw [h] at hchange hinstalled
  rw [start.eq_def]
  dsimp only
  rw [h]
  cases result with
  | error fault => exact hchange
  | ok id =>
      dsimp only
      rw [holdings_install (hinstalled id rfl)]
      exact hchange

/-- Closing a container. -/
theorem closeContainer_holdings (id : ℕ) :
    (app.closeContainer id).holdings = { app.holdings with clients := app.holdings.released id } := by
  rw [closeContainer, Holdings.released]
  simp only [holdings]
  cases app.containers[id]? with
  | none => rfl
  | some container =>
      simp only [Container.close]
      cases container.ownsClient <;> rfl

/-- Closing and removing the installed container. -/
theorem close_change {s : Step} (hcloses : s.closes app.installed = app.installed)
    (hremoves : s.removes = true) : Change s app.holdings app.close.holdings := by
  rw [close]
  cases hinstalled : app.installed with
  | none => exact .keeps (hcloses.trans hinstalled)
  | some id =>
      have hafter : holdings { app.closeContainer id with installed := none } =
          { (app.closeContainer id).holdings with installed := none } := rfl
      have hchange := Change.closes (h := app.holdings) (hcloses.trans hinstalled)
      rw [hremoves] at hchange
      simp only [hafter, closeContainer_holdings]
      exact hchange

/-- What an answer needs is that a container is installed. -/
theorem withContainer_change {s : Step} (hcloses : s.closes app.installed = none)
    (hgives : s.gives = false) (env : Environment) {use : Container → App → CallAnswer × App}
    (huse : ∀ container app, (use container app).2.holdings = app.holdings) :
    Change s app.holdings (app.withContainer env use).2.holdings := by
  have hget := (app.get_change hcloses hgives env).1
  rw [withContainer]
  cases h : app.get env with
  | mk result app' =>
      rw [h] at hget
      cases result with
      | error fault => exact hget
      | ok id =>
          dsimp only
          cases app'.containers[id]? with
          | none => exact hget
          | some container =>
              rw [huse]
              exact hget

/-- What the answer to a request can change. -/
theorem handle_change {s : Step} (hcloses : s.closes app.installed = none)
    (hgives : s.gives = false) (call : Call) (env : Environment) :
    Change s app.holdings (handle call env app).2.holdings := by
  rw [handle]
  cases Route.find call.method call.path with
  | nowhere | otherMethod | otherPath => exact .keeps hcloses
  | route route =>
      cases route with
      | health => exact app.withContainer_change hcloses hgives env fun _ _ => rfl
      | testAlert =>
          dsimp only
          cases readPayload call.contentType call.body with
          | error refusal => exact .keeps hcloses
          | ok request => exact app.withContainer_change hcloses hgives env (test_holdings request)

end

/-! ### All steps -/

/-- **Everything that a step can do** to what the process holds. -/
theorem step_change (env : Environment) (app : App) (s : Step) :
    Change s app.holdings (step env app s).2.holdings := by
  -- The page that every step begins is not part of what the process holds.
  let page : App := { app with world := app.world.newPage }
  have hpage : app.holdings = page.holdings := rfl
  rw [hpage]
  cases s with
  | new plan =>
      have hstep : step env app (.new plan) = page.build plan false env := rfl
      rw [hstep]
      exact page.build_change plan false rfl rfl nofun env
  | init plan =>
      have hstep : step env app (.init plan) = page.build plan true env := rfl
      rw [hstep]
      exact page.build_change plan true rfl rfl (fun _ => rfl) env
  | initDefault =>
      rw [step.eq_def]
      dsimp only
      obtain ⟨fault, app', h, hafter⟩ |
          ⟨app', c, container, h, hopen, hclient, hown, hafter⟩ :=
        page.assemble_own none false env
      · rw [h, ← hafter]
        exact .keeps rfl
      · have hinstall : app'.install page.containers.length =
            if true then app'.install page.containers.length else app' := rfl
        rw [h]
        dsimp only
        rw [describe_snd, hinstall]
        exact change_of_assembled rfl (fun _ => rfl) hopen hclient hown hafter
  | get =>
      have hget := (page.get_change (s := .get) rfl rfl env).1
      obtain ⟨result, app', h⟩ : ∃ result app', page.get env = (result, app') := ⟨_, _, rfl⟩
      rw [h] at hget
      rw [step.eq_def]
      dsimp only
      rw [h]
      cases result with
      | error fault => exact hget
      | ok id =>
          dsimp only
          rw [describe_snd]
          exact hget
  | close => exact page.close_change rfl rfl
  | closeOne id =>
      have hstep : step env app (.closeOne id) = (.done, page.closeContainer id) := rfl
      rw [hstep, closeContainer_holdings]
      exact .closes rfl
  | start level =>
      have hstart := page.start_change (s := .start level) rfl rfl level env
      obtain ⟨result, app', h⟩ : ∃ result app', page.start level env = (result, app') :=
        ⟨_, _, rfl⟩
      rw [h] at hstart
      rw [step.eq_def]
      dsimp only
      rw [h]
      cases result with
      | error fault => exact hstart
      | ok done => exact hstart
  | stop => exact page.close_change rfl rfl
  | request call replies =>
      let loaded : App := { page with world := page.world.load replies }
      have hloaded : loaded.holdings = page.holdings := by cases replies <;> rfl
      have hstep : step env app (.request call replies) =
          (.answered (handle call env loaded).1, (handle call env loaded).2) := rfl
      rw [hstep, ← hloaded]
      exact loaded.handle_change rfl rfl call env

/-! ### Runs -/

/-- A run that goes on with other steps. -/
theorem run_append (app : App) (steps later : List (Environment × Step)) :
    (run app (steps ++ later)).2 = (run (run app steps).2 later).2 := by
  induction steps generalizing app with
  | nil => rfl
  | cons first rest ih => exact ih (step first.1 app first.2).2

/-- One more step of a run. -/
theorem run_append_singleton (app : App) (steps : List (Environment × Step)) (env : Environment)
    (s : Step) : (run app (steps ++ [(env, s)])).2 = (step env (run app steps).2 s).2 := by
  rw [run_append]
  rfl

/-- Something that can happen at a moment: in a step, to the process before it. -/
abbrev Event := App → Environment → Step → Prop

/-- An event happens at some moment of a run of the process. -/
def Happens (event : Event) (steps : List (Environment × Step)) : Prop :=
  ∃ before env s after, steps = before ++ (env, s) :: after ∧ event (run {} before).2 env s

/-- Nothing happens before the first step. -/
theorem not_happens_nil (event : Event) : ¬Happens event [] := by
  rintro ⟨before, env, s, after, hsteps, -⟩
  exact List.append_ne_nil_of_right_ne_nil before (List.cons_ne_nil _ after) hsteps.symm

/-- What happened in a run has happened when the run has gone on. -/
theorem Happens.append {event : Event} {steps : List (Environment × Step)}
    (h : Happens event steps) (later : List (Environment × Step)) :
    Happens event (steps ++ later) := by
  obtain ⟨before, env, s, after, rfl, hevent⟩ := h
  exact ⟨before, env, s, after ++ later, by simp, hevent⟩

/-- What happened is also what follows from it. -/
theorem Happens.imp {event event' : Event} {steps : List (Environment × Step)}
    (h : ∀ app env s, event app env s → event' app env s) (hevent : Happens event steps) :
    Happens event' steps := by
  obtain ⟨before, env, s, after, hsteps, hmoment⟩ := hevent
  exact ⟨before, env, s, after, hsteps, h _ _ _ hmoment⟩

/-- The last moment of a run comes after those of the run before it. -/
theorem happens_append_singleton {event : Event} {steps : List (Environment × Step)}
    {env : Environment} {s : Step} :
    Happens event (steps ++ [(env, s)]) ↔ Happens event steps ∨ event (run {} steps).2 env s := by
  constructor
  · rintro ⟨before, env', s', after, hsteps, hevent⟩
    rcases List.eq_nil_or_concat after with rfl | ⟨after, last, rfl⟩
    · obtain ⟨rfl, hlast⟩ := List.append_inj' hsteps rfl
      cases hlast
      exact .inr hevent
    · rw [List.concat_eq_append, ← List.cons_append, ← List.append_assoc] at hsteps
      obtain ⟨rfl, -⟩ := List.append_inj' hsteps rfl
      exact .inl ⟨before, env', s', after, rfl, hevent⟩
  · rintro (h | hevent)
    · exact h.append _
    · exact ⟨steps, env, s, [], rfl, hevent⟩

/-- What holds at the start and is kept by every step holds after every run. -/
theorem run_invariant {I : App → Prop} (hstart : I {})
    (hstep : ∀ env app s, I app → I (step env app s).2) (steps : List (Environment × Step)) :
    I (run {} steps).2 := by
  induction steps using List.reverseRecOn with
  | nil => exact hstart
  | append_singleton steps last ih =>
      rw [run_append_singleton]
      exact hstep last.1 _ last.2 ih

/-- **What a run has brought about.** Where a property does not hold at the start, and a step
brings it about just when an event happens and never ends it, it holds after the runs in which
the event has happened. -/
theorem happens_iff {event : Event} {I Q : App → Prop} (hI : ∀ steps, I (run {} steps).2)
    (hstart : ¬Q {})
    (hstep : ∀ env app s, I app → (Q (step env app s).2 ↔ Q app ∨ event app env s))
    (steps : List (Environment × Step)) : Happens event steps ↔ Q (run {} steps).2 := by
  induction steps using List.reverseRecOn with
  | nil => exact iff_of_false (not_happens_nil event) hstart
  | append_singleton steps last ih =>
      rw [run_append_singleton, hstep last.1 _ last.2 (hI steps), ← ih]
      exact happens_append_singleton

end App

end AlertRelay

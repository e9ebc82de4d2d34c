import AlertRelay.Proofs.Service.Step

/-!
# Plans of Containers

A container is put together from a **plan**: a configuration that is passed in, or else the one
of the environment, a client for it or none, and whether it must have a URL. The plan leads to
the configuration of the container, which is the one that it starts from with client options
filled in, or there is an **obstacle**: a document that is refused, variables that describe no
configuration, or no URL where one is required.

What a step demands of the installed container, and the plan that it carries out, decide what the
process holds after it.

## Main results

* `Container.assemble_eq`: putting a container together, by what its plan leads to.
* `App.step_follows`: **every step follows its demand and its plan**.
-/

namespace AlertRelay

open Http Schema

/-! ### What a plan leads to -/

/-- The configuration of a container: the one that is chosen, with client options filled in. A
strict container must have a URL to send to. -/
def Container.planned (config : Option Config) (strict : Bool) (env : Environment) :
    Except ConfigFault Config :=
  match chooseConfig config env with
  | .error fault => .error fault
  | .ok chosen =>
    if strict = true ∧ chosen.url = "" then .error .urlRequired else .ok chosen.withDefaults

/-- A URL is required and missing. -/
theorem Container.lacksUrl_iff {strict : Bool} {config : Config} :
    (strict && !config.withDefaults.hasUrl) = true ↔ strict = true ∧ config.url = "" := by
  have hurl : config.withDefaults.hasUrl = decide (config.url ≠ "") := rfl
  simp [hurl]

/-- **Putting a container together.** An obstacle leaves the world as it is. -/
theorem Container.assemble_eq (config : Option Config) (client : Option ℕ) (strict : Bool)
    (env : Environment) (w : World) :
    assemble config client strict env w =
      match planned config strict env with
      | .error fault => (.error fault, w)
      | .ok config =>
        match client with
        | some id => (.ok ⟨config, config.hasUrl, id, false⟩, warnUnlessValid config.hasUrl w)
        | none =>
          (.ok ⟨config, config.hasUrl, w.clients.length, true⟩,
            ((warnUnlessValid config.hasUrl w).openClient (config.client.getD {}).client).1) := by
  rw [assemble, assembly, planned]
  cases chooseConfig config env with
  | error fault => rfl
  | ok chosen =>
      dsimp only
      by_cases hrefused : strict = true ∧ chosen.url = ""
      · rw [if_pos hrefused, lacksUrl_iff.mpr hrefused]
        rfl
      · have hbuilt : (strict && !chosen.withDefaults.hasUrl) = false := by
          rwa [← Bool.not_eq_true, lacksUrl_iff]
        rw [if_neg hrefused, hbuilt]
        cases client with
        | some id => rfl
        | none =>
            simp only [Bool.false_eq_true, if_false]
            rw [World.openClient, warnUnlessValid_clients]

/-- A configuration that is chosen is left as it is by the assembly, which ends with a container
unless a URL is required and missing. -/
theorem Container.assembly_of_chosen {config : Option Config} {env : Environment}
    {original : Config} (h : chooseConfig config env = .ok original) (client : Option ℕ)
    (strict : Bool) (w : World) :
    (assembly config client strict env w).original = some original ∧
      (assembly config client strict env w).outcome.isOk =
        !(strict && !original.withDefaults.hasUrl) := by
  rw [assembly, h]
  dsimp only
  cases strict && !original.withDefaults.hasUrl with
  | true => exact ⟨rfl, rfl⟩
  | false => cases client <;> exact ⟨rfl, rfl⟩

namespace App

/-- Why no container is put together. -/
inductive Obstacle
  /-- The document of the configuration is refused. -/
  | refused (faults : DocumentFaults)
  /-- The variables describe no configuration, or a URL is required and there is none. -/
  | failed (fault : ConfigFault)

/-- The configuration that a plan starts from: the one that is passed in, or the one of the
environment. -/
def Plan.original (plan : Plan) (env : Environment) : Except Obstacle Config :=
  match plan.config with
  | some document => (readDocument Config.recordName Config.ofJson document).mapError .refused
  | none => (Config.ofEnvironment env).mapError .failed

/-- The configuration that a plan leads to, or what is in its way. -/
def Plan.outcome (plan : Plan) (env : Environment) : Except Obstacle Config :=
  match plan.original env with
  | .error obstacle => .error obstacle
  | .ok config =>
    if plan.strict = true ∧ config.url = "" then .error (.failed .urlRequired)
    else .ok config.withDefaults

/-- The clients that were created for the container before it is put together. -/
def Plan.givenClients (plan : Plan) : List Client :=
  plan.client.toList.map fun followRedirects => { timeouts := givenTimeouts, followRedirects }

/-- The client of the container: the one that was given to it, or one made from its options. -/
def Plan.clientFor (plan : Plan) (config : Config) : Client :=
  plan.givenClients.headD (config.client.getD {}).client

/-- The container that a plan leads to, with the number of its client. -/
def Plan.container (plan : Plan) (config : Config) (client : ℕ) : Container :=
  ⟨config, config.hasUrl, client, plan.client.isNone⟩

/-- A plan starts from the configuration that is chosen once the one that it gives was read. -/
theorem Plan.original_eq_ok {plan : Plan} {env : Environment} {config : Config} :
    plan.original env = .ok config ↔
      ∃ given, plan.readConfig = .ok given ∧ Container.chooseConfig given env = .ok config := by
  rw [original, readConfig]
  cases plan.config with
  | none =>
      cases henv : Config.ofEnvironment env <;> simp [Container.chooseConfig, Except.mapError, henv]
  | some document =>
      cases hread : readDocument Config.recordName Config.ofJson document <;>
        simp [Container.chooseConfig, Except.mapError, Except.map, hread]

/-- A plan that starts from a configuration leads to a container unless a URL is required and
missing. -/
theorem Plan.outcome_isOk {plan : Plan} {env : Environment} {config : Config}
    (h : plan.original env = .ok config) :
    (plan.outcome env).isOk = !(plan.strict && !config.withDefaults.hasUrl) := by
  rw [outcome, h]
  dsimp only
  by_cases hrefused : plan.strict = true ∧ config.url = ""
  · rw [if_pos hrefused, Container.lacksUrl_iff.mpr hrefused]
    rfl
  · have hbuilt : (plan.strict && !config.withDefaults.hasUrl) = false := by
      rwa [← Bool.not_eq_true, Container.lacksUrl_iff]
    rw [if_neg hrefused, hbuilt]
    rfl

/-- What a plan leads to, by the two steps in which it is carried out. -/
theorem Plan.outcome_cases (plan : Plan) (env : Environment) :
    (∃ faults, plan.readConfig = .error faults ∧ plan.outcome env = .error (.refused faults)) ∨
      ∃ config, plan.readConfig = .ok config ∧
        ((∃ fault, Container.planned config plan.strict env = .error fault ∧
            plan.outcome env = .error (.failed fault)) ∨
          ∃ c, Container.planned config plan.strict env = .ok c ∧ plan.outcome env = .ok c) := by
  have hchosen (config : Option Config) (chosen : Config)
      (hconfig : Container.chooseConfig config env = .ok chosen)
      (horiginal : plan.original env = .ok chosen) :
      (∃ fault, Container.planned config plan.strict env = .error fault ∧
          plan.outcome env = .error (.failed fault)) ∨
        ∃ c, Container.planned config plan.strict env = .ok c ∧ plan.outcome env = .ok c := by
    rw [Container.planned, outcome, hconfig, horiginal]
    dsimp only
    split
    · exact .inl ⟨_, rfl, rfl⟩
    · exact .inr ⟨_, rfl, rfl⟩
  cases hconfig : plan.config with
  | none =>
      have hread : plan.readConfig = .ok none := by rw [readConfig, hconfig]
      have horiginal : plan.original env = (Config.ofEnvironment env).mapError .failed := by
        rw [original, hconfig]
      refine .inr ⟨none, hread, ?_⟩
      cases henv : Config.ofEnvironment env with
      | ok config =>
          rw [henv] at horiginal
          exact hchosen none config henv horiginal
      | error fault =>
          rw [henv] at horiginal
          refine .inl ⟨fault, ?_, ?_⟩
          · rw [Container.planned, Container.chooseConfig, henv]
          · rw [outcome, horiginal]
            rfl
  | some document =>
      have hread : plan.readConfig =
          (readDocument Config.recordName Config.ofJson document).map some := by
        rw [readConfig, hconfig]
      have horiginal : plan.original env =
          (readDocument Config.recordName Config.ofJson document).mapError .refused := by
        rw [original, hconfig]
      cases hdocument : readDocument Config.recordName Config.ofJson document with
      | ok config =>
          rw [hdocument] at hread horiginal
          exact .inr ⟨some config, hread, hchosen (some config) config rfl horiginal⟩
      | error faults =>
          rw [hdocument] at hread horiginal
          refine .inl ⟨faults, hread, ?_⟩
          rw [outcome, horiginal]
          rfl

/-- A plan starts from the configuration that it leads to, up to client options. -/
theorem Plan.original_of_outcome {plan : Plan} {env : Environment} {config : Config}
    (h : plan.outcome env = .ok config) :
    ∃ original, plan.original env = .ok original ∧ config = original.withDefaults := by
  rw [outcome] at h
  cases horiginal : plan.original env with
  | error obstacle =>
      rw [horiginal] at h
      cases h
  | ok original =>
      rw [horiginal] at h
      dsimp only at h
      split at h
      · cases h
      · exact ⟨original, rfl, (Except.ok.inj h).symm⟩

/-! ### What a step demands -/

/-- What a step demands of the installed container. -/
inductive Demand
  /-- It needs one; where there is none, one is put together and installed. -/
  | needs
  /-- It installs the one that it puts together. -/
  | installs
  /-- It removes it. -/
  | removes
  | nothing
  deriving DecidableEq

/-- A call that is answered with the help of a container: for the state of the service, or for a
test alert whose body is accepted. -/
def isServed (call : Call) : Bool :=
  decide (call.method = "GET" ∧ call.path = "/health") ||
    decide (call.method = "POST" ∧ call.path = "/debug/test-alert") &&
      (readPayload call.contentType call.body).isOk

/-- What a step demands. -/
def Step.demand : Step → Demand
  | .get | .start _ => .needs
  | .init _ | .initDefault => .installs
  | .close | .stop => .removes
  | .new _ | .closeOne _ => .nothing
  | .request call _ => if isServed call then .needs else .nothing

/-- The installed container after a step with a demand, which has put the container of the number
`built` together if any. -/
def Demand.next (installed built : Option ℕ) : Demand → Option ℕ
  | .needs => installed.or built
  | .installs => built.or installed
  | .removes => none
  | .nothing => installed

/-- The plan that a step carries out: one that it is given, or that of the environment. -/
def Step.plan? (installed : Option ℕ) : Step → Option Plan
  | .new plan | .init plan => some plan
  | .initDefault => some {}
  | .get | .start _ => if installed = none then some {} else none
  | .request call _ => if isServed call ∧ installed = none then some {} else none
  | .close | .closeOne _ | .stop => none

/-- What an answer tells about a container that could not be put together. -/
def Answer.obstacle? : Answer → Option Obstacle
  | .refused faults => some (.refused faults)
  | .failed fault => some (.failed fault)
  | .answered answer =>
    match answer.crash with
    | some (.config fault) => some (.failed fault)
    | some (.send _) | none => none
  | .container .. | .built .. | .started .. | .done => none

/-- **What a step does by its demand and its plan**: what it answers about an obstacle, and what
the process holds after it. -/
inductive Follows (env : Environment) (s : Step) (h : Holdings) :
    Option Obstacle → Holdings → Prop
  | idle {clients : List Client} :
      s.plan? h.installed = none →
      Follows env s h none ⟨clients, h.containers, s.demand.next h.installed none⟩
  | refuses {plan : Plan} {faults : DocumentFaults} :
      s.plan? h.installed = some plan →
      plan.outcome env = .error (.refused faults) →
      Follows env s h (some (.refused faults)) h
  | fails {plan : Plan} {fault : ConfigFault} :
      s.plan? h.installed = some plan →
      plan.outcome env = .error (.failed fault) →
      Follows env s h (some (.failed fault)) { h with clients := h.clients ++ plan.givenClients }
  | builds {plan : Plan} {config : Config} :
      s.plan? h.installed = some plan →
      plan.outcome env = .ok config →
      Follows env s h none
        ⟨h.clients ++ [plan.clientFor config],
          h.containers ++ [plan.container config h.clients.length],
          s.demand.next h.installed (some h.containers.length)⟩

/-! ### Operations -/

/-- The description of a container tells of no obstacle. -/
theorem describe_obstacle? {answer : Container → Answer}
    (h : ∀ container, (answer container).obstacle? = none) (id : ℕ) (app : App) :
    (app.describe id answer).1.obstacle? = none := by
  rw [describe]
  split
  · exact h _
  · rfl

/-- What the process holds when another container is installed. -/
theorem holdings_installed {app : App} {h : Holdings} (hheld : app.holdings = h)
    (installed : Option ℕ) :
    holdings { app with installed } = { h with installed } := by
  rw [← hheld]
  rfl

section

variable (app : App)

/-- An obstacle leaves the process as it is. -/
theorem assemble_of_error {config : Option Config} {strict : Bool} {env : Environment}
    {fault : ConfigFault} (h : Container.planned config strict env = .error fault)
    (client : Option ℕ) : app.assemble config client strict env = (.error fault, app) := by
  rw [assemble, Container.assemble_eq, h]

/-- What putting the container of a plan together adds to what the process holds. The client that
is given to it is there before, and stays when there is an obstacle. -/
theorem assemble_plan (plan : Plan) (config : Option Config) (env : Environment) :
    ∃ client opened, plan.openClient app = (client, opened) ∧
      (∀ fault, Container.planned config plan.strict env = .error fault →
        ∃ app', opened.assemble config client plan.strict env = (.error fault, app') ∧
          app'.holdings =
            ⟨app.world.clients ++ plan.givenClients, app.containers, app.installed⟩) ∧
      ∀ c, Container.planned config plan.strict env = .ok c →
        ∃ app', opened.assemble config client plan.strict env =
            (.ok app.containers.length, app') ∧
          app'.holdings =
            ⟨app.world.clients ++ [plan.clientFor c],
              app.containers ++ [plan.container c app.world.clients.length], app.installed⟩ := by
  cases hclient : plan.client with
  | none =>
      refine ⟨none, app, by rw [Plan.openClient, hclient], ?_, ?_⟩
      · intro fault hplanned
        refine ⟨app, assemble_of_error app hplanned none, ?_⟩
        simp [Plan.givenClients, hclient, holdings]
      · intro c hplanned
        rw [assemble, Container.assemble_eq, hplanned]
        refine ⟨_, rfl, ?_⟩
        simp [Plan.clientFor, Plan.givenClients, Plan.container, hclient, holdings,
          World.openClient, warnUnlessValid_clients]
  | some followRedirects =>
      let given : Client := { timeouts := givenTimeouts, followRedirects }
      let opened : App := { app with world := (app.world.openClient given).1 }
      have hgiven : plan.givenClients = [given] := by rw [Plan.givenClients, hclient]; rfl
      refine ⟨some app.world.clients.length, opened, by rw [Plan.openClient, hclient]; rfl, ?_, ?_⟩
      · intro fault hplanned
        refine ⟨opened, assemble_of_error opened hplanned _, ?_⟩
        rw [hgiven]
        rfl
      · intro c hplanned
        rw [assemble, Container.assemble_eq, hplanned]
        refine ⟨_, rfl, ?_⟩
        simp [Plan.clientFor, hgiven, Plan.container, hclient, holdings, opened,
          World.openClient, warnUnlessValid_clients]

variable {app} in
/-- Building the container of a plan, and installing it where the step demands that. -/
theorem build_follows {s : Step} {plan : Plan} {installs : Bool}
    (hplan : s.plan? app.installed = some plan)
    (hnext : ∀ id, s.demand.next app.installed (some id) =
      if installs then some id else app.installed) (env : Environment) :
    Follows env s app.holdings (app.build plan installs env).1.obstacle?
      (app.build plan installs env).2.holdings := by
  rw [build]
  obtain ⟨faults, hread, houtcome⟩ | ⟨config, hread, hplanned⟩ := plan.outcome_cases env
  · rw [hread]
    exact .refuses hplan houtcome
  · obtain ⟨client, opened, hopen, herror, hok⟩ := app.assemble_plan plan config env
    simp only [hread, hopen]
    obtain ⟨fault, hplanned, houtcome⟩ | ⟨c, hplanned, houtcome⟩ := hplanned
    · obtain ⟨failed, hfailed, hafter⟩ := herror fault hplanned
      simp only [hfailed, hafter]
      exact .fails hplan houtcome
    · obtain ⟨built, hbuilt, hafter⟩ := hok c hplanned
      have hinstalled : (if installs then built.install app.containers.length else built).holdings =
          ⟨app.world.clients ++ [plan.clientFor c],
            app.containers ++ [plan.container c app.world.clients.length],
            s.demand.next app.installed (some app.containers.length)⟩ := by
        rw [hnext]
        cases installs with
        | false => exact hafter
        | true => exact holdings_installed hafter (some app.containers.length)
      simp only [hbuilt, describe_snd, hinstalled]
      rw [describe_obstacle? fun _ => rfl]
      exact .builds hplan houtcome

/-- Putting the container of the environment together. -/
theorem assemble_default (env : Environment) :
    (∃ fault, ({} : Plan).outcome env = .error (.failed fault) ∧
        app.assemble none none false env = (.error fault, app)) ∨
      ∃ config app', ({} : Plan).outcome env = .ok config ∧
        app.assemble none none false env = (.ok app.containers.length, app') ∧
        app'.holdings =
          ⟨app.world.clients ++ [({} : Plan).clientFor config],
            app.containers ++ [({} : Plan).container config app.world.clients.length],
            app.installed⟩ := by
  obtain ⟨faults, hread, -⟩ | ⟨config, hread, hplanned⟩ := ({} : Plan).outcome_cases env
  · cases hread
  · cases hread
    obtain ⟨client, opened, hopen, -, hok⟩ := app.assemble_plan {} none env
    cases hopen
    obtain ⟨fault, hplanned, houtcome⟩ | ⟨c, hplanned, houtcome⟩ := hplanned
    · exact .inl ⟨fault, houtcome, app.assemble_of_error hplanned none⟩
    · obtain ⟨built, hbuilt, hafter⟩ := hok c hplanned
      exact .inr ⟨c, built, houtcome, hbuilt, hafter⟩

/-- Getting the installed container. -/
theorem get_cases (env : Environment) :
    (∃ id, app.installed = some id ∧ app.get env = (.ok id, app)) ∨
      app.installed = none ∧
        ((∃ fault, ({} : Plan).outcome env = .error (.failed fault) ∧
            app.get env = (.error fault, app)) ∨
          ∃ config app', ({} : Plan).outcome env = .ok config ∧
            app.get env = (.ok app.containers.length, app') ∧
            app'.holdings =
              ⟨app.world.clients ++ [({} : Plan).clientFor config],
                app.containers ++ [({} : Plan).container config app.world.clients.length],
                some app.containers.length⟩) := by
  cases hinstalled : app.installed with
  | some id => exact .inl ⟨id, rfl, by rw [get, hinstalled]⟩
  | none =>
      refine .inr ⟨rfl, ?_⟩
      obtain ⟨fault, houtcome, h⟩ | ⟨config, app', houtcome, h, hafter⟩ := app.assemble_default env
      · refine .inl ⟨fault, houtcome, ?_⟩
        rw [get, hinstalled]
        simp only [h]
      · refine .inr ⟨config, { app' with installed := some app.containers.length }, houtcome, ?_,
          holdings_installed hafter _⟩
        rw [get, hinstalled]
        simp only [h]

/-- What is in the way of getting the installed container. -/
def obstacleOf : Except ConfigFault ℕ → Option Obstacle
  | .error fault => some (.failed fault)
  | .ok _ => none

/-- A step that needs a container carries out the plan of the environment where none is installed.
-/
theorem Step.plan?_of_needs {s : Step} (h : s.demand = .needs) (installed : Option ℕ) :
    s.plan? installed = if installed = none then some {} else none := by
  cases s with
  | get | start => rfl
  | request call replies =>
      have hserved : isServed call = true := by
        rw [demand] at h
        by_contra hother
        rw [if_neg hother] at h
        cases h
      rw [plan?, hserved]
      simp
  | new | init | initDefault | close | closeOne | stop => cases h

/-- A step that does nothing where its demand asks for nothing. -/
theorem Follows.same {env : Environment} {s : Step} {h : Holdings}
    (hplan : s.plan? h.installed = none) (hnext : s.demand.next h.installed none = h.installed) :
    Follows env s h none h := by
  have hidle : Follows env s h none ⟨h.clients, h.containers, s.demand.next h.installed none⟩ :=
    .idle hplan
  rwa [hnext] at hidle

/-- A step that needs a container gets the installed one, or follows the plan of the
environment. -/
theorem get_follows {s : Step} (hneeds : s.demand = .needs) (env : Environment) :
    Follows env s app.holdings (obstacleOf (app.get env).1) (app.get env).2.holdings := by
  have hplan := s.plan?_of_needs hneeds app.installed
  obtain ⟨id, hinstalled, hget⟩ | ⟨hinstalled, hget⟩ := app.get_cases env
  · rw [hget]
    refine .same ?_ ?_
    · rw [holdings, hplan, hinstalled]
      rfl
    · rw [holdings, hneeds, hinstalled]
      rfl
  · rw [if_pos hinstalled] at hplan
    obtain ⟨fault, houtcome, hget⟩ | ⟨config, app', houtcome, hget, hafter⟩ := hget
    · have hfails := Follows.fails (h := app.holdings) hplan houtcome
      rw [hget]
      rwa [show ({} : Plan).givenClients = [] from rfl, List.append_nil] at hfails
    · have hbuilds := Follows.builds (h := app.holdings) hplan houtcome
      have hnext : s.demand.next app.installed (some app.containers.length) =
          some app.containers.length := by
        rw [hneeds, hinstalled]
        rfl
      rw [hget, hafter]
      rwa [show app.holdings.installed = app.installed from rfl,
        show app.holdings.containers.length = app.containers.length from rfl, hnext] at hbuilds

/-- Starting follows its demand and its plan. -/
theorem start_follows {s : Step} (hneeds : s.demand = .needs) (level : String)
    (env : Environment) :
    Follows env s app.holdings
      (match (app.start level env).1 with
        | .error fault => some (.failed fault)
        | .ok () => none)
      (app.start level env).2.holdings := by
  let starting : App :=
    announce "🚀 Starting Webhook Alert Server" { app with console := app.console.setUp level }
  have hfollows := starting.get_follows hneeds env
  have hinstalled := (starting.get_change (s := .get) rfl rfl env).2
  obtain ⟨result, app', hget⟩ : ∃ result app', starting.get env = (result, app') := ⟨_, _, rfl⟩
  rw [hget] at hfollows hinstalled
  rw [start.eq_def]
  dsimp only
  rw [hget]
  cases result with
  | error fault => exact hfollows
  | ok id =>
      dsimp only
      rw [holdings_install (hinstalled id rfl)]
      exact hfollows

/-- Closing and removing the installed container. -/
theorem close_follows {s : Step} (hplan : s.plan? app.installed = none)
    (hremoves : s.demand = .removes) (env : Environment) :
    Follows env s app.holdings none app.close.holdings := by
  have hafter : app.close.holdings = ⟨app.close.world.clients, app.containers, none⟩ := by
    rw [close]
    cases hinstalled : app.installed with
    | none => rw [holdings, hinstalled]
    | some id =>
        have hcontainers := congrArg Holdings.containers (app.closeContainer_holdings id)
        simp only [holdings] at hcontainers ⊢
        rw [hcontainers]
  have hidle : Follows env s app.holdings none
      ⟨app.close.world.clients, app.containers, s.demand.next app.installed none⟩ := .idle hplan
  rw [hremoves] at hidle
  rw [hafter]
  exact hidle

end

/-! ### Requests -/

/-- A use of a container that answers without an obstacle and holds on to nothing new. -/
structure IsReading (use : Container → App → CallAnswer × App) : Prop where
  obstacle : ∀ container app, (Answer.answered (use container app).1).obstacle? = none
  holdings : ∀ container app, (use container app).2.holdings = app.holdings

/-- The state of the service is read. -/
theorem isReading_health : IsReading health := ⟨fun _ _ => rfl, fun _ _ => rfl⟩

/-- A test reads the containers. -/
theorem isReading_test (request : TestRequest) : IsReading (test request) := by
  refine ⟨fun container app => ?_, test_holdings request⟩
  rw [test]
  split
  · unfold sendTest
    dsimp only
    split
    · rfl
    · next failure _ => cases failure <;> rfl
  · rfl

/-- An answer with the help of the container follows its demand and its plan. -/
theorem withContainer_follows (app : App) {s : Step} (hneeds : s.demand = .needs)
    (env : Environment) {use : Container → App → CallAnswer × App} (huse : IsReading use) :
    Follows env s app.holdings (Answer.answered (app.withContainer env use).1).obstacle?
      (app.withContainer env use).2.holdings := by
  have hfollows := app.get_follows hneeds env
  obtain ⟨result, app', hget⟩ : ∃ result app', app.get env = (result, app') := ⟨_, _, rfl⟩
  rw [hget] at hfollows
  rw [withContainer, hget]
  cases result with
  | error fault => exact hfollows
  | ok id =>
      dsimp only
      cases app'.containers[id]? with
      | none => exact hfollows
      | some container =>
          dsimp only
          rw [huse.obstacle, huse.holdings]
          exact hfollows

/-- A route is found by its method and its path. -/
theorem find_eq_route_iff {method path : String} {route : Route} :
    Route.find method path = .route route ↔ method = route.method ∧ path = route.path := by
  have hpath : ∀ r : Route, Route.ofPath? path = some r ↔ path = r.path := by
    intro r
    rw [Route.ofPath?]
    constructor
    · intro h
      have hsame := List.find?_some h
      exact (of_decide_eq_true hsame).symm
    · rintro rfl
      cases r <;> rfl
  rw [Route.find]
  cases hfound : Route.ofPath? path with
  | none =>
      have hother : path ≠ route.path := fun h => nomatch hfound.symm.trans ((hpath route).mpr h)
      dsimp only
      split <;> simp [hother]
  | some r =>
      have hr := (hpath r).mp hfound
      have hsame : path = route.path ↔ r = route := by
        rw [← hpath, hfound, Option.some.injEq]
      dsimp only
      by_cases hmethod : r.method = method
      · rw [if_pos hmethod, hsame]
        constructor
        · intro h
          cases h
          exact ⟨hmethod.symm, rfl⟩
        · rintro ⟨-, rfl⟩
          rfl
      · rw [if_neg hmethod, hsame]
        constructor
        · nofun
        · rintro ⟨h, rfl⟩
          exact absurd h.symm hmethod

/-- Which calls are served, by where they lead. -/
theorem isServed_eq (call : Call) :
    isServed call =
      match Route.find call.method call.path with
      | .route .health => true
      | .route .testAlert => (readPayload call.contentType call.body).isOk
      | .nowhere | .otherMethod | .otherPath => false := by
  have hroute (route : Route) :
      call.method = route.method ∧ call.path = route.path ↔
        Route.find call.method call.path = .route route := find_eq_route_iff.symm
  have hhealth := hroute .health
  have htest := hroute .testAlert
  simp only [Route.method, Route.path] at hhealth htest
  simp only [isServed, hhealth, htest]
  cases Route.find call.method call.path with
  | nowhere | otherMethod | otherPath => simp
  | route route => cases route <;> simp

/-- A call is answered with the help of a container if it is served, and without one if not. -/
theorem handle_cases (call : Call) :
    (isServed call = true ∧ ∃ use, IsReading use ∧
        ∀ env app, handle call env app = app.withContainer env use) ∨
      isServed call = false ∧ ∃ answer, (Answer.answered answer).obstacle? = none ∧
        ∀ env app, handle call env app = (answer, app) := by
  rw [isServed_eq]
  cases hfind : Route.find call.method call.path with
  | nowhere | otherMethod | otherPath =>
      exact .inr ⟨rfl, _, rfl, fun env app => by rw [handle, hfind]⟩
  | route route =>
      cases route with
      | health => exact .inl ⟨rfl, health, isReading_health, fun env app => by rw [handle, hfind]⟩
      | testAlert =>
          cases hbody : readPayload call.contentType call.body with
          | ok request =>
              refine .inl ⟨rfl, test request, isReading_test request, fun env app => ?_⟩
              simp only [handle, hfind, hbody]
          | error refusal =>
              refine .inr ⟨rfl, .refusal refusal, ?_, fun env app => ?_⟩
              · cases refusal <;> rfl
              · simp only [handle, hfind, hbody]

/-! ### All steps -/

/-- **Every step follows its demand and its plan.** -/
theorem step_follows (env : Environment) (app : App) (s : Step) :
    Follows env s app.holdings (step env app s).1.obstacle? (step env app s).2.holdings := by
  -- The page that every step begins is not part of what the process holds.
  let page : App := { app with world := app.world.newPage }
  have hpage : app.holdings = page.holdings := rfl
  rw [hpage]
  cases s with
  | new plan =>
      have hstep : step env app (.new plan) = page.build plan false env := rfl
      rw [hstep]
      exact build_follows rfl (fun _ => rfl) env
  | init plan =>
      have hstep : step env app (.init plan) = page.build plan true env := rfl
      rw [hstep]
      exact build_follows rfl (fun _ => rfl) env
  | initDefault =>
      rw [step.eq_def]
      dsimp only
      obtain ⟨fault, houtcome, h⟩ | ⟨config, app', houtcome, h, hafter⟩ := page.assemble_default env
      · have hfails := Follows.fails (s := .initDefault) (h := page.holdings) rfl houtcome
        rw [h]
        rwa [show ({} : Plan).givenClients = [] from rfl, List.append_nil] at hfails
      · have hbuilds := Follows.builds (s := .initDefault) (h := page.holdings) rfl houtcome
        have hinstalled : (app'.install page.containers.length).holdings = _ :=
          holdings_installed hafter (some page.containers.length)
        rw [h]
        dsimp only
        rw [describe_snd, describe_obstacle? fun _ => rfl, hinstalled]
        exact hbuilds
  | get =>
      have hget := page.get_follows (s := .get) rfl env
      obtain ⟨result, app', h⟩ : ∃ result app', page.get env = (result, app') := ⟨_, _, rfl⟩
      rw [h] at hget
      rw [step.eq_def]
      dsimp only
      rw [h]
      cases result with
      | error fault => exact hget
      | ok id =>
          dsimp only
          rw [describe_snd, describe_obstacle? fun _ => rfl]
          exact hget
  | close => exact page.close_follows rfl rfl env
  | closeOne id =>
      have hstep : step env app (.closeOne id) = (.done, page.closeContainer id) := rfl
      rw [hstep, closeContainer_holdings]
      exact .idle rfl
  | start level =>
      have hstart := page.start_follows (s := .start level) rfl level env
      obtain ⟨result, app', h⟩ : ∃ result app', page.start level env = (result, app') :=
        ⟨_, _, rfl⟩
      rw [h] at hstart
      rw [step.eq_def]
      dsimp only
      rw [h]
      cases result with
      | error fault => exact hstart
      | ok done => exact hstart
  | stop => exact page.close_follows rfl rfl env
  | request call replies =>
      let loaded : App := { page with world := page.world.load replies }
      have hloaded : loaded.holdings = page.holdings := by cases replies <;> rfl
      have hstep : step env app (.request call replies) =
          (.answered (handle call env loaded).1, (handle call env loaded).2) := rfl
      rw [hstep, ← hloaded]
      obtain ⟨hserved, use, huse, hhandle⟩ | ⟨hserved, answer, hanswer, hhandle⟩ :=
        handle_cases call
      · rw [hhandle]
        exact loaded.withContainer_follows (by rw [Step.demand, if_pos hserved]) env huse
      · have hdemand : Step.demand (.request call replies) = .nothing := by
          rw [Step.demand, if_neg (by rw [hserved]; exact Bool.false_ne_true)]
        rw [hhandle, hanswer]
        refine .same ?_ ?_
        · rw [Step.plan?, hserved, if_neg (by simp)]
        · rw [hdemand]
          rfl

/-- What is installed is one of the containers, after a step if before it. -/
theorem Follows.installed_lt {env : Environment} {s : Step} {h h' : Holdings}
    {told : Option Obstacle} (hfollows : Follows env s h told h')
    (hlt : ∀ id, h.installed = some id → id < h.containers.length) :
    ∀ id, h'.installed = some id → id < h'.containers.length := by
  intro id hid
  cases hfollows with
  | refuses | fails => exact hlt id hid
  | idle =>
      refine hlt id ?_
      cases hdemand : s.demand with
      | removes =>
          rw [hdemand] at hid
          cases hid
      | needs | installs | nothing =>
          rw [hdemand] at hid
          simpa [Demand.next] using hid
  | builds =>
      rw [List.length_append, List.length_singleton, Nat.lt_succ_iff_lt_or_eq]
      cases hdemand : s.demand with
      | removes =>
          rw [hdemand] at hid
          cases hid
      | nothing =>
          rw [hdemand] at hid
          exact .inl (hlt id hid)
      | installs =>
          rw [hdemand] at hid
          exact .inr (Option.some.inj hid).symm
      | needs =>
          rw [hdemand] at hid
          rcases Option.or_eq_some_iff.mp hid with hid | ⟨-, hid⟩
          · exact .inl (hlt id hid)
          · exact .inr (Option.some.inj hid).symm

end App

end AlertRelay

import AlertRelay.Proofs.Service.Plans
import AlertRelay.Proofs.Session.Frame

/-!
# Configurations as Objects

A configuration is an object, and a container does not keep the one that it is put together from,
its **original**, but a copy with client options filled in. Two things could change them later.
The configuration of a container is in use: it is checked, which writes client options where
there are none, it is rendered and it is sent with. And the copy shares with its original what
is not a text, the two tables, the alert, and the client options where the original has some, so
that what is done to these in place is seen through both.

A `Process` is the service together with the originals of its containers. Its containers can be
put to any use but an assignment at any time between the steps of the service; after each, the
container has the configuration that the use left, and its original shows what they share.

Nothing changes: containers are put together with all their options, so there is nothing that a
use could fill in.

## Main results

* `Process.run_steps`: steps alone are a run of the service.
* `Container.session_step_config`: a use leaves the configuration of a container.
* `Process.sound_use`: what one use of the process keeps, and what it can add.
* `Process.run_frozen`: **containers and originals are frozen** once they are there.
-/

namespace AlertRelay

open Http

/-- What a configuration shows when a copy of it has become `copy`. The tables are those of the
copy, and so are the client options and the alert that the original has. -/
def Config.seenThrough (copy original : Config) : Config :=
  { original with
    headers := copy.headers
    placeholders := copy.placeholders
    client := original.client.bind fun _ => copy.client
    defaultAlert := original.defaultAlert.bind fun _ => copy.defaultAlert }

/-- A configuration of which a copy was taken for a container, and the number of the container
if it was put together. -/
structure Original where
  config : Config
  container : Option ℕ

/-- An original seen through the copy that its container keeps. -/
def Original.refresh (containers : List Container) (o : Original) : Original :=
  match o.container.bind fun id => containers[id]? with
  | some container => { o with config := container.config.seenThrough o.config }
  | none => o

/-- The configuration of a container in use, with the client that the container sends through. -/
def Container.session (c : Container) (w : World) : Session :=
  { config := c.config, client := some c.client, world := w }

/-- The service and the originals of its containers, in the order in which they came. -/
structure Process where
  app : App := {}
  originals : List Original := []

namespace Process

/-- What can be done with a process: a step of the service, or a use of the configuration of a
container that assigns no field of it. -/
inductive Use
  | step (env : Environment) (s : App.Step)
  | container (id : ℕ) (s : Session.Step) (hs : s.isAssignment = false)

/-- The original of which a step takes a copy, as the assembly of the container leaves it. It
belongs to the container that comes next, if one is put together. -/
def copied (env : Environment) (s : App.Step) (app : App) : List Original :=
  match s.plan? app.installed with
  | none => []
  | some plan =>
    match plan.readConfig with
    | .error _ => []
    | .ok config =>
      let (client, opened) := plan.openClient app
      let left := Container.assembly config client plan.strict env opened.world
      left.original.toList.map fun original =>
        { config := original
          container := if left.outcome.isOk then some app.containers.length else none }

/-- The process with other containers, and with its originals seen through them. -/
def settle (app : App) (originals : List Original) : Process :=
  { app, originals := originals.map (·.refresh app.containers) }

/-- The process after the configuration of a container was used. -/
def useContainer (p : Process) (id : ℕ) (s : Session.Step) : Process :=
  match p.app.containers[id]? with
  | none => p
  | some container =>
    let session := ((container.session p.app.world).step s).2
    let used : Container := { container with config := session.config }
    settle
      { p.app with world := session.world, containers := p.app.containers.set id used }
      p.originals

/-- The process after a step of the service. -/
def useStep (p : Process) (env : Environment) (s : App.Step) : Process :=
  settle (p.app.step env s).2 (p.originals ++ copied env s p.app)

/-- The process after a use of it. -/
def use (p : Process) : Use → Process
  | .step env s => p.useStep env s
  | .container id s _ => p.useContainer id s

/-- The process after uses in order. -/
def run (uses : List Use) : Process := uses.foldl use {}

/-- Uses are made one after the other. -/
theorem run_append (uses later : List Use) : run (uses ++ later) = later.foldl use (run uses) :=
  List.foldl_append

/-- Steps alone are a run of the service. -/
theorem run_steps (steps : List (Environment × App.Step)) :
    (run (steps.map fun p => .step p.1 p.2)).app = (App.run {} steps).2 := by
  induction steps using List.reverseRecOn with
  | nil => rfl
  | append_singleton steps last ih =>
      rw [List.map_append, run_append, App.run_append_singleton, ← ih]
      rfl

end Process

/-! ### One container -/

/-- A configuration with client options has nothing to be filled in. -/
theorem Config.withDefaults_of_isSome {c : Config} (h : c.client.isSome = true) :
    c.withDefaults = c := by
  obtain ⟨options, hoptions⟩ := Option.isSome_iff_exists.mp h
  rw [withDefaults, hoptions, Option.getD_some, ← hoptions]

/-- An original is as it was when its copy is what was made of it. -/
theorem Config.seenThrough_withDefaults (c : Config) : c.withDefaults.seenThrough c = c := by
  obtain ⟨url, method, body, headers, placeholders, client, defaultAlert⟩ := c
  cases client <;> cases defaultAlert <;> rfl

/-- **A use leaves the configuration of a container**, which has all its options. -/
theorem Container.session_step_config {c : Container} (h : c.config.client.isSome = true)
    (w : World) {s : Session.Step} (hs : s.isAssignment = false) :
    ((c.session w).step s).2.config = c.config := by
  obtain ⟨-, hconfig⟩ | ⟨-, hconfig⟩ := Session.step_config_cases (c.session w) hs
  · rw [hconfig]
    exact Config.withDefaults_of_isSome h
  · exact hconfig

/-- A check of the configuration of a container that has all its options writes nothing. -/
theorem Container.session_isValid {c : Container} (h : c.config.client.isSome = true) (w : World) :
    (c.session w).step .isValid =
      (.validity c.config.hasUrl c.config.client false, c.session w) := by
  obtain ⟨options, hoptions⟩ := Option.isSome_iff_exists.mp h
  have hsame : (c.session w).config.withDefaults = c.config := Config.withDefaults_of_isSome h
  have hthere : c.config.client.isNone = false := by rw [hoptions]; rfl
  rw [Session.step, hsame]
  simp only [Container.session, hthere]

namespace Process

/-! ### What a process keeps -/

/-- An original whose container keeps what was made of it. -/
def IsKept (containers : List Container) (o : Original) : Prop :=
  ∀ id, o.container = some id →
    ∃ c, containers[id]? = some c ∧ c.config = o.config.withDefaults

/-- Every container tells whether it has a URL, has all its options and has an original, and
keeps what was made of it. What is installed is one of them. -/
structure Sound (p : Process) : Prop where
  installed : ∀ id, p.app.installed = some id → id < p.app.containers.length
  valid : ∀ c ∈ p.app.containers, c.valid = c.config.hasUrl
  options : ∀ c ∈ p.app.containers, c.config.client.isSome = true
  original : ∀ id < p.app.containers.length, ∃ o ∈ p.originals, o.container = some id
  kept : ∀ o ∈ p.originals, IsKept p.app.containers o

/-- An original whose container keeps what was made of it is as it was. -/
theorem refresh_of_isKept {containers : List Container} {o : Original}
    (h : IsKept containers o) : o.refresh containers = o := by
  rw [Original.refresh]
  cases hcontainer : o.container with
  | none => rfl
  | some id =>
      obtain ⟨c, hc, hconfig⟩ := h id hcontainer
      rw [Option.bind_some, hc]
      dsimp only
      rw [hconfig, Config.seenThrough_withDefaults, ← hcontainer]

/-- So are all originals whose containers do. -/
theorem map_refresh {containers : List Container} {originals : List Original}
    (h : ∀ o ∈ originals, IsKept containers o) :
    originals.map (·.refresh containers) = originals := by
  calc originals.map (·.refresh containers)
      = originals.map id := List.map_congr_left fun o ho => refresh_of_isKept (h o ho)
    _ = originals := List.map_id _

/-- What a container keeps does not change when others come after it. -/
theorem IsKept.append {containers : List Container} {o : Original} (h : IsKept containers o)
    (later : List Container) : IsKept (containers ++ later) o := by
  intro id hid
  obtain ⟨c, hc, hconfig⟩ := h id hid
  have hlt : id < containers.length := (List.getElem?_eq_some_iff.mp hc).1
  exact ⟨c, by rw [List.getElem?_append_left hlt, hc], hconfig⟩

/-- A process without containers is sound. -/
theorem sound_start : Sound {} where
  installed _ hid := nomatch hid
  valid _ hmem := absurd hmem List.not_mem_nil
  options _ hmem := absurd hmem List.not_mem_nil
  original id hid := absurd hid (Nat.not_lt_zero id)
  kept _ hmem := absurd hmem List.not_mem_nil

/-- What comes later does not move what is there. -/
theorem getElem?_of_prefix {α : Type} {xs ys : List α} (h : xs <+: ys) {i : ℕ} {x : α}
    (hx : xs[i]? = some x) : ys[i]? = some x := by
  obtain ⟨hlt, -⟩ := List.getElem?_eq_some_iff.mp hx
  rw [← hx, List.prefix_iff_getElem?.mp h i hlt, List.getElem?_eq_getElem hlt]

/-- A use of a container changes neither the containers nor the originals. -/
theorem useContainer_eq {p : Process} (hp : p.Sound) (id : ℕ) {s : Session.Step}
    (hs : s.isAssignment = false) :
    (p.useContainer id s).app.containers = p.app.containers ∧
      (p.useContainer id s).app.installed = p.app.installed ∧
      (p.useContainer id s).originals = p.originals := by
  rw [useContainer]
  cases hc : p.app.containers[id]? with
  | none => exact ⟨rfl, rfl, rfl⟩
  | some c =>
      have hoptions := hp.options c (List.mem_of_getElem? hc)
      have hconfig := Container.session_step_config hoptions p.app.world hs
      have hcontainers : p.app.containers.set id c = p.app.containers := by
        obtain ⟨hlt, rfl⟩ := List.getElem?_eq_some_iff.mp hc
        exact List.set_getElem_self hlt
      simp only [settle, hconfig, hcontainers]
      exact ⟨trivial, trivial, map_refresh hp.kept⟩

/-- Where the configuration of a plan is found, the step that carries the plan out adds it as an
original, as it was read. -/
theorem copied_of_original {env : Environment} {s : App.Step} {app : App} {plan : App.Plan}
    {config : Config} (hplan : s.plan? app.installed = some plan)
    (horiginal : plan.original env = .ok config) :
    copied env s app =
      [⟨config, if (plan.outcome env).isOk then some app.containers.length else none⟩] := by
  obtain ⟨given, hread, hchosen⟩ := App.Plan.original_eq_ok.mp horiginal
  rcases hopen : plan.openClient app with ⟨client, opened⟩
  obtain ⟨hleft, hbuilt⟩ :=
    Container.assembly_of_chosen hchosen client plan.strict opened.world
  rw [copied, hplan, App.Plan.outcome_isOk horiginal, ← hbuilt]
  simp only [hread, hopen, hleft]
  rfl

/-- Where there is no configuration to be found, no original is added. -/
theorem copied_of_obstacle {env : Environment} {s : App.Step} {app : App} {plan : App.Plan}
    {obstacle : App.Obstacle} (hplan : s.plan? app.installed = some plan)
    (horiginal : plan.original env = .error obstacle) : copied env s app = [] := by
  rw [copied, hplan]
  dsimp only
  cases hread : plan.readConfig with
  | error faults => rfl
  | ok given =>
      cases hchosen : Container.chooseConfig given env with
      | ok config =>
          rw [App.Plan.original_eq_ok.mpr ⟨given, hread, hchosen⟩] at horiginal
          cases horiginal
      | error fault =>
          dsimp only
          rw [Container.assembly, hchosen]
          rfl

/-- A plan that leads to no container leaves no original that belongs to one. -/
theorem container_of_copied {env : Environment} {s : App.Step} {app : App} {plan : App.Plan}
    {obstacle : App.Obstacle} (hplan : s.plan? app.installed = some plan)
    (houtcome : plan.outcome env = .error obstacle) :
    ∀ o ∈ copied env s app, o.container = none := by
  cases horiginal : plan.original env with
  | error other =>
      rw [copied_of_obstacle hplan horiginal]
      simp
  | ok config =>
      rw [copied_of_original hplan horiginal, houtcome]
      exact List.forall_mem_singleton.mpr rfl

/-- What a step of the service adds: no container, and an original without one if any; or a
container, and the original that it is made of. -/
theorem step_copied (env : Environment) (app : App) (s : App.Step) :
    ((app.step env s).2.containers = app.containers ∧
        ∀ o ∈ copied env s app, o.container = none) ∨
      ∃ plan config, s.plan? app.installed = some plan ∧ plan.original env = .ok config ∧
        (app.step env s).2.containers =
          app.containers ++ [plan.container config.withDefaults app.world.clients.length] ∧
        copied env s app = [⟨config, some app.containers.length⟩] := by
  have hfollows := App.step_follows env app s
  generalize (app.step env s).1.obstacle? = obstacle at hfollows
  generalize hafter : (app.step env s).2.holdings = after at hfollows
  have hcontainers : (app.step env s).2.containers = after.containers := by rw [← hafter]; rfl
  cases hfollows with
  | idle hplan =>
      have hplan' : s.plan? app.installed = none := hplan
      refine .inl ⟨hcontainers, ?_⟩
      rw [copied, hplan']
      simp
  | refuses hplan houtcome => exact .inl ⟨hcontainers, container_of_copied hplan houtcome⟩
  | fails hplan houtcome => exact .inl ⟨hcontainers, container_of_copied hplan houtcome⟩
  | @builds plan c hplan houtcome =>
      obtain ⟨config, horiginal, rfl⟩ := App.Plan.original_of_outcome houtcome
      refine .inr ⟨plan, config, hplan, horiginal, hcontainers, ?_⟩
      rw [copied_of_original hplan horiginal, houtcome]
      rfl

/-- Where all containers keep what was made of the originals, nothing is to be settled. -/
theorem settle_of_isKept {app : App} {originals : List Original}
    (h : ∀ o ∈ originals, IsKept app.containers o) : settle app originals = ⟨app, originals⟩ := by
  rw [settle, map_refresh h]

/-- A process stays sound when originals without a container come. -/
theorem Sound.add_originals {p : Process} (hp : p.Sound) {app : App} {later : List Original}
    (hcontainers : app.containers = p.app.containers)
    (hinstalled : ∀ id, app.installed = some id → id < app.containers.length)
    (hlater : ∀ o ∈ later, o.container = none) : Sound ⟨app, p.originals ++ later⟩ := by
  refine ⟨hinstalled, ?_, ?_, ?_, ?_⟩ <;> dsimp only <;> rw [hcontainers]
  · exact hp.valid
  · exact hp.options
  · intro id hid
    obtain ⟨o, ho, hcontainer⟩ := hp.original id hid
    exact ⟨o, List.mem_append_left _ ho, hcontainer⟩
  · intro o ho id hid
    rcases List.mem_append.mp ho with ho | ho
    · exact hp.kept o ho id hid
    · rw [hlater o ho] at hid
      cases hid

/-- A process stays sound when a container comes, with the original that it is made of. -/
theorem Sound.add_container {p : Process} (hp : p.Sound) {app : App} {c : Container}
    {config : Config} (hcontainers : app.containers = p.app.containers ++ [c])
    (hinstalled : ∀ id, app.installed = some id → id < app.containers.length)
    (hconfig : c.config = config.withDefaults) (hvalid : c.valid = c.config.hasUrl) :
    Sound ⟨app, p.originals ++ [⟨config, some p.app.containers.length⟩]⟩ := by
  refine ⟨hinstalled, ?_, ?_, ?_, ?_⟩ <;> dsimp only <;> rw [hcontainers]
  · exact List.forall_mem_append.mpr ⟨hp.valid, List.forall_mem_singleton.mpr hvalid⟩
  · refine List.forall_mem_append.mpr ⟨hp.options, List.forall_mem_singleton.mpr ?_⟩
    rw [hconfig]
    rfl
  · intro id hid
    rw [List.length_append, List.length_singleton, Nat.lt_succ_iff_lt_or_eq] at hid
    rcases hid with hid | rfl
    · obtain ⟨o, ho, hcontainer⟩ := hp.original id hid
      exact ⟨o, List.mem_append_left _ ho, hcontainer⟩
    · exact ⟨_, List.mem_append_right _ (List.mem_singleton_self _), rfl⟩
  · refine List.forall_mem_append.mpr
      ⟨fun o ho => (hp.kept o ho).append [c], List.forall_mem_singleton.mpr ?_⟩
    rintro _ ⟨⟩
    exact ⟨c, List.getElem?_concat_length, hconfig⟩

/-- A step of the service keeps the process sound, and adds to what is there. -/
theorem useStep_eq {p : Process} (hp : p.Sound) (env : Environment) (s : App.Step) :
    p.useStep env s = ⟨(p.app.step env s).2, p.originals ++ copied env s p.app⟩ ∧
      (p.useStep env s).Sound ∧ p.app.containers <+: (p.app.step env s).2.containers := by
  have hinstalled := (App.step_follows env p.app s).installed_lt hp.installed
  have hafter : Sound ⟨(p.app.step env s).2, p.originals ++ copied env s p.app⟩ ∧
      p.app.containers <+: (p.app.step env s).2.containers := by
    obtain ⟨hcontainers, hcopied⟩ | ⟨plan, config, -, -, hcontainers, hcopied⟩ :=
      step_copied env p.app s
    · exact ⟨hp.add_originals hcontainers hinstalled hcopied, hcontainers ▸ List.prefix_refl _⟩
    · rw [hcopied]
      exact ⟨hp.add_container hcontainers hinstalled rfl rfl,
        hcontainers ▸ List.prefix_append _ _⟩
  have heq : p.useStep env s = _ := settle_of_isKept hafter.1.kept
  exact ⟨heq, heq ▸ hafter.1, hafter.2⟩

/-- **What a use keeps and adds.** -/
theorem sound_use {p : Process} (hp : p.Sound) (u : Use) :
    (p.use u).Sound ∧ p.app.containers <+: (p.use u).app.containers ∧
      p.originals <+: (p.use u).originals := by
  cases u with
  | container id s hs =>
      obtain ⟨hcontainers, hinstalled, horiginals⟩ := useContainer_eq hp id hs
      have hsound : (p.useContainer id s).Sound := by
        refine ⟨?_, ?_, ?_, ?_, ?_⟩ <;> rw [hcontainers]
        · rw [hinstalled]
          exact hp.installed
        · exact hp.valid
        · exact hp.options
        · rw [horiginals]
          exact hp.original
        · rw [horiginals]
          exact hp.kept
      exact ⟨hsound, hcontainers ▸ List.prefix_refl _, horiginals ▸ List.prefix_refl _⟩
  | step env s =>
      obtain ⟨heq, hsound, hgrows⟩ := useStep_eq hp env s
      refine ⟨hsound, ?_, ?_⟩
      · rw [use, heq]
        exact hgrows
      · rw [use, heq]
        exact List.prefix_append _ _

/-- What a stretch of uses keeps and adds. -/
theorem sound_foldl {p : Process} (hp : p.Sound) (uses : List Use) :
    (uses.foldl use p).Sound ∧ p.app.containers <+: (uses.foldl use p).app.containers ∧
      p.originals <+: (uses.foldl use p).originals := by
  induction uses generalizing p with
  | nil => exact ⟨hp, List.prefix_refl _, List.prefix_refl _⟩
  | cons u uses ih =>
      obtain ⟨hsound, hcontainers, horiginals⟩ := sound_use hp u
      obtain ⟨hlast, hlater, hshown⟩ := ih hsound
      exact ⟨hlast, hcontainers.trans hlater, horiginals.trans hshown⟩

/-- A process is sound after any uses. -/
theorem run_sound (uses : List Use) : (run uses).Sound := (sound_foldl sound_start uses).1

/-! ### Frozen containers -/

/-- **Containers and originals are frozen.** Take a container after any uses of the process. It is
valid exactly if its configuration has a URL, which is also what a fresh check of its provider
tells, without a change; and a send through its client gives the same configuration back, which
is why the service keeps the outcome only. Its configuration is that of an original with client
options filled in, which are those of the original where it has some and the default ones where
not. After any later uses the container is the same in every field, and so is every original, the
ones without client options included; and a step adds as an original the configuration that it was
given, as it was read. -/
theorem run_frozen (uses later : List Use) :
    (∀ (id : ℕ) (c : Container), (run uses).app.containers[id]? = some c →
      (c.valid = true ↔ c.config.url ≠ "") ∧
      (∀ w, (c.session w).step .isValid =
        (.validity c.valid c.config.client false, c.session w)) ∧
      (∀ target w, (AlertRelay.send c.config (some c.client) target w).2.1 = c.config) ∧
      (∃ o ∈ (run uses).originals, o.container = some id ∧
        c.config = o.config.withDefaults ∧
        c.config.client = some (o.config.client.getD {})) ∧
      (run (uses ++ later)).app.containers[id]? = some c) ∧
    (∀ (i : ℕ) (o : Original), (run uses).originals[i]? = some o →
      (run (uses ++ later)).originals[i]? = some o) ∧
    ∀ (env : Environment) (s : App.Step) (plan : App.Plan) (config : Config),
      s.plan? (run uses).app.installed = some plan → plan.original env = .ok config →
      ∃ container, ((run uses).use (.step env s)).originals =
        (run uses).originals ++ [⟨config, container⟩] := by
  have hsound := run_sound uses
  obtain ⟨-, hcontainers, horiginals⟩ := sound_foldl hsound later
  rw [← run_append] at hcontainers horiginals
  refine ⟨?_, fun i o ho => getElem?_of_prefix horiginals ho, ?_⟩
  · intro id c hc
    have hmem := List.mem_of_getElem? hc
    have hvalid := hsound.valid c hmem
    refine ⟨?_, ?_, ?_, ?_, getElem?_of_prefix hcontainers hc⟩
    · rw [hvalid]
      exact decide_eq_true_iff
    · intro w
      rw [hvalid]
      exact Container.session_isValid (hsound.options c hmem) w
    · intro target w
      rw [send_config, if_neg]
      rintro ⟨⟨⟩, -⟩
    · obtain ⟨hlt, -⟩ := List.getElem?_eq_some_iff.mp hc
      obtain ⟨o, ho, hcontainer⟩ := hsound.original id hlt
      obtain ⟨kept, hkept, hconfig⟩ := hsound.kept o ho id hcontainer
      obtain rfl : c = kept := Option.some.inj (hc.symm.trans hkept)
      exact ⟨o, ho, hcontainer, hconfig, congrArg Config.client hconfig⟩
  · intro env s plan config hplan horiginal
    obtain ⟨heq, -, -⟩ := useStep_eq hsound env s
    exact ⟨_, by rw [use, heq, copied_of_original hplan horiginal]⟩

end Process

end AlertRelay

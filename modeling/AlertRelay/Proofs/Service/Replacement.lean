import AlertRelay.Proofs.Service.Ownership

/-!
# Containers That Are Replaced

A container can be the installed one during one stretch of a run only, since every container that
is installed is new or was installed already. The stretch ends when the container is **removed**,
which closes it, or when it is **replaced** by another, which does not close it. Nothing but a
step that names it can close it then.

So what the service has built is not always released when it shuts down: a run without such steps
that ends with the removal of the installed container leaves open just those clients whose
containers were replaced on the way.

## Main results

* `happens_leaves_iff`: the two ends of the stretch.
* `Happens.not_both`: the stretch ends once.
* `run_released_iff`: **which clients are released**, in a run that ends with a removal.
-/

namespace AlertRelay.App

open Http

/-- After a step, a container is the installed one. -/
def HasInstalled (id : ℕ) : Event := fun app env s => (step env app s).2.installed = some id

/-- The installed container is no longer installed after a step. -/
def Leaves (id : ℕ) : Event := fun app env s =>
  app.installed = some id ∧ (step env app s).2.installed ≠ some id

/-- The installed container is closed and removed. -/
def Removes (id : ℕ) : Event := fun app _ s => app.installed = some id ∧ s.removes = true

/-- Another container is installed in place of the installed one. -/
def Replaces (id : ℕ) : Event := fun app env s =>
  app.installed = some id ∧ s.replaces = true ∧ (step env app s).2.installed ≠ some id

/-! ### The installed container -/

/-- What a step can do to the installed container. -/
theorem Change.installed_cases {s : Step} {h h' : Holdings} (hchange : Change s h h') :
    h'.installed = h.installed ∨
      h'.installed = some h.containers.length ∧ (h.installed = none ∨ s.replaces = true) ∨
      h'.installed = none ∧ s.removes = true := by
  cases hchange with
  | keeps | gives => exact .inl rfl
  | builds _ _ _ _ hinstalled => exact hinstalled.imp_right .inl
  | closes _ =>
      cases hremoves : s.removes with
      | false => exact .inl rfl
      | true => exact .inr (.inr ⟨rfl, rfl⟩)

/-- After closing no container is installed. -/
theorem close_installed (app : App) : app.close.installed = none := by
  rw [close]
  split
  · rfl
  · assumption

/-- After a removal no container is installed. -/
theorem step_installed_of_removes {s : Step} (hremoves : s.removes = true) (env : Environment)
    (app : App) : (step env app s).2.installed = none := by
  cases s with
  | close | stop => exact close_installed _
  | new | init | initDefault | get | closeOne | start | request => cases hremoves

/-- The installed container leaves by being removed or by being replaced. -/
theorem leaves_iff (id : ℕ) (app : App) (env : Environment) (s : Step) :
    Leaves id app env s ↔ Removes id app env s ∨ Replaces id app env s := by
  constructor
  · rintro ⟨hinstalled, hleft⟩
    rcases (step_change env app s).installed_cases with
      hsame | ⟨-, hnone | hreplaces⟩ | ⟨-, hremoves⟩
    · exact absurd (hsame.trans hinstalled) hleft
    · cases hinstalled.symm.trans hnone
    · exact .inr ⟨hinstalled, hreplaces, hleft⟩
    · exact .inl ⟨hinstalled, hremoves⟩
  · rintro (⟨hinstalled, hremoves⟩ | ⟨hinstalled, -, hleft⟩)
    · refine ⟨hinstalled, ?_⟩
      rw [step_installed_of_removes hremoves]
      nofun
    · exact ⟨hinstalled, hleft⟩

/-- A container that is there and not installed is not installed again. -/
def Retired (id : ℕ) (app : App) : Prop := id < app.containers.length ∧ app.installed ≠ some id

/-- A container that is retired stays so. -/
theorem Retired.step {id : ℕ} {app : App} (hretired : Retired id app) (env : Environment)
    (s : Step) : Retired id (step env app s).2 := by
  have hchange := step_change env app s
  obtain ⟨hid, hother⟩ := hretired
  refine ⟨Nat.lt_of_lt_of_le hid hchange.prefix_containers.length_le, ?_⟩
  rcases hchange.installed_cases with hsame | ⟨hnew, -⟩ | ⟨hnone, -⟩
  · exact fun h => hother (hsame.symm.trans h)
  · -- The container that is installed is the next one, and this one was there before.
    exact fun h => Nat.ne_of_lt hid (Option.some.inj (h.symm.trans hnew))
  · exact fun h => nomatch hnone.symm.trans h

section

variable {steps : List (Environment × Step)} {id : ℕ}

/-- A container that has left stays away. -/
theorem retired_of_leaves (h : Happens (Leaves id) steps) : Retired id (run {} steps).2 := by
  induction steps using List.reverseRecOn with
  | nil => exact absurd h (not_happens_nil _)
  | append_singleton steps last ih =>
      rw [run_append_singleton]
      rcases happens_append_singleton.mp h with hearlier | ⟨hinstalled, hleft⟩
      · exact (ih hearlier).step last.1 last.2
      · have hid := (run_sound steps).installed id hinstalled
        have hgrows := (step_change last.1 (run {} steps).2 last.2).prefix_containers
        exact ⟨Nat.lt_of_lt_of_le hid hgrows.length_le, hleft⟩

/-- **The stretch ends once**: by one event, if the two never coincide. -/
theorem Happens.not_both {e₁ e₂ : Event} (h₁ : ∀ app env s, e₁ app env s → Leaves id app env s)
    (h₂ : ∀ app env s, e₂ app env s → Leaves id app env s)
    (hapart : ∀ app env s, e₁ app env s → ¬e₂ app env s) (hfirst : Happens e₁ steps) :
    ¬Happens e₂ steps := by
  induction steps using List.reverseRecOn with
  | nil => exact absurd hfirst (not_happens_nil _)
  | append_singleton steps last ih =>
      intro hsecond
      rcases happens_append_singleton.mp hfirst with hfirst | hfirst <;>
        rcases happens_append_singleton.mp hsecond with hsecond | hsecond
      · exact ih hfirst hsecond
      · exact (retired_of_leaves (hfirst.imp h₁)).2 (h₂ _ _ _ hsecond).1
      · exact (retired_of_leaves (hsecond.imp h₂)).2 (h₁ _ _ _ hfirst).1
      · exact hapart _ _ _ hfirst hsecond

/-- A container that was installed is so still, or has left. -/
theorem installed_or_leaves (h : Happens (HasInstalled id) steps) :
    (run {} steps).2.installed = some id ∨ Happens (Leaves id) steps := by
  induction steps using List.reverseRecOn with
  | nil => exact absurd h (not_happens_nil _)
  | append_singleton steps last ih =>
      rw [run_append_singleton, happens_append_singleton]
      by_cases hnow : (step last.1 (run {} steps).2 last.2).2.installed = some id
      · exact .inl hnow
      · rcases happens_append_singleton.mp h with hearlier | hinstalls
        · exact .inr ((ih hearlier).symm.imp_right fun hbefore => ⟨hbefore, hnow⟩)
        · exact absurd hinstalls hnow

/-- Without steps that name a container, one is closed just when it is removed. -/
theorem happens_closes_iff (hsteps : ∀ p ∈ steps, ∀ id, p.2 ≠ .closeOne id) :
    Happens (Closes id) steps ↔ Happens (Removes id) steps := by
  constructor
  · rintro ⟨before, env, s, after, rfl, hcloses, -⟩
    have hmem : (env, s) ∈ before ++ (env, s) :: after :=
      List.mem_append_right _ List.mem_cons_self
    obtain ⟨hremoves, hinstalled⟩ :=
      (Step.closes_eq_some.mp hcloses).resolve_left (hsteps _ hmem id)
    exact ⟨before, env, s, after, rfl, hinstalled, hremoves⟩
  · rintro ⟨before, env, s, after, rfl, hinstalled, hremoves⟩
    have hcloses := Step.closes_eq_some.mpr (.inr ⟨hremoves, hinstalled⟩)
    exact ⟨before, env, s, after, rfl, hcloses, (run_sound before).installed id hinstalled⟩

/-- In a run that ends with a removal, a container that was installed was removed unless it was
replaced. -/
theorem happens_removes_iff {env : Environment} {s : Step} (hlast : s.removes = true)
    (hinstalled : Happens (HasInstalled id) (steps ++ [(env, s)])) :
    Happens (Removes id) (steps ++ [(env, s)]) ↔ ¬Happens (Replaces id) (steps ++ [(env, s)]) := by
  have hapart : ∀ app env s, Removes id app env s → ¬Replaces id app env s := by
    rintro app env s ⟨-, hremoves⟩ ⟨-, hreplaces, -⟩
    cases s with
    | close | stop => cases hreplaces
    | new | init | initDefault | get | closeOne | start | request => cases hremoves
  constructor
  · exact fun hremoves hreplaces => hremoves.not_both (fun _ _ _ h => (leaves_iff ..).mpr (.inl h))
      (fun _ _ _ h => (leaves_iff ..).mpr (.inr h)) hapart hreplaces
  · intro hkept
    have hnone : (run {} (steps ++ [(env, s)])).2.installed = none := by
      rw [run_append_singleton, step_installed_of_removes hlast]
    obtain ⟨before, env', s', after, hsteps, hleaves⟩ :=
      (installed_or_leaves hinstalled).resolve_left fun h => nomatch hnone.symm.trans h
    rcases (leaves_iff ..).mp hleaves with hremoves | hreplaces
    · exact ⟨before, env', s', after, hsteps, hremoves⟩
    · exact absurd ⟨before, env', s', after, hsteps, hreplaces⟩ hkept

end

/-- A plan that gives nothing but a URL. -/
def plainPlan : Plan := { config := some (.object [("url", .string "http://h/")]) }

/-- The first container of the process is installed and has a client of its own. -/
theorem init_plainPlan :
    HasInstalled 0 {} [] (.init plainPlan) ∧ Builds 0 0 {} [] (.init plainPlan) := by
  have hfirst : (step [] {} (.init plainPlan)).2.installed = some 0 ∧
      (step [] {} (.init plainPlan)).2.containers.length = 1 ∧
      (step [] {} (.init plainPlan)).2.world.clients.length = 1 := by decide +kernel
  obtain ⟨hinstalled, hcontainers, hclients⟩ := hfirst
  exact ⟨hinstalled, rfl, ⟨rfl, hcontainers⟩, rfl, hclients⟩

/-- **Which clients are released.** In a run without steps that name a container, which ends with
the removal of the installed one, take any container that was installed at some point and any
client that was built for it. The client is there at the end, and it is closed just when no other
container was installed in place of its own. -/
theorem run_released_iff {steps : List (Environment × Step)} {env : Environment} {s : Step}
    {id k : ℕ} (hsteps : ∀ p ∈ steps ++ [(env, s)], ∀ id, p.2 ≠ .closeOne id)
    (hlast : s.removes = true)
    (hinstalled : Happens (HasInstalled id) (steps ++ [(env, s)]))
    (hbuilt : Happens (Builds id k) (steps ++ [(env, s)])) :
    ∃ c, (run {} (steps ++ [(env, s)])).2.world.clients[k]? = some c ∧
      (c.closed = true ↔ ¬Happens (Replaces id) (steps ++ [(env, s)])) := by
  have hsound := run_sound (steps ++ [(env, s)])
  have howns := (happens_builds_iff _ id k).mp hbuilt
  have hc := List.getElem?_eq_getElem (hsound.lt_of_owns howns)
  refine ⟨_, hc, ?_⟩
  rw [← happens_removes_iff hlast hinstalled, ← happens_closes_iff hsteps]
  constructor
  · intro hclosed
    obtain ⟨other, hother, hcloses⟩ := (closed_iff_happens _ k).mp ⟨_, hc, hclosed⟩
    rwa [hsound.owner_unique howns ((happens_builds_iff _ other k).mp hother)]
  · intro hcloses
    obtain ⟨c, hsame, hclosed⟩ := (closed_iff_happens _ k).mpr ⟨id, hbuilt, hcloses⟩
    rwa [Option.some.inj (hc.symm.trans hsame)]

/-- A container that is installed, found installed again and removed releases its client. -/
theorem run_released_at_stop :
    let steps : List (Environment × Step) := [([], .init plainPlan), ([], .get)]
    ∃ c, (run {} (steps ++ [([], .stop)])).2.world.clients[0]? = some c ∧ c.closed = true := by
  intro steps
  have hsteps : ∀ p ∈ steps ++ [([], .stop)], ∀ id, p.2 ≠ .closeOne id := by
    simp [steps]
  have hkept : ¬Happens (Replaces 0)
      ([] ++ [([], .init plainPlan)] ++ [([], .get)] ++ [([], .stop)]) := by
    simp only [happens_append_singleton, not_or]
    refine ⟨⟨⟨not_happens_nil _, ?_⟩, ?_⟩, ?_⟩
    · exact fun h => nomatch h.1
    · exact fun h => nomatch h.2.1
    · exact fun h => nomatch h.2.1
  obtain ⟨hinstalled, hbuilt⟩ := init_plainPlan
  obtain ⟨c, hc, hreleased⟩ := run_released_iff hsteps rfl
    ⟨[], [], .init plainPlan, _, rfl, hinstalled⟩ ⟨[], [], .init plainPlan, _, rfl, hbuilt⟩
  exact ⟨c, hc, hreleased.mpr hkept⟩

/-- A container that another one replaces never releases its client. -/
theorem run_leaks_replaced_client :
    let steps : List (Environment × Step) :=
      [([], .init plainPlan), ([], .init plainPlan), ([], .close)]
    (∀ p ∈ steps, ∀ id, p.2 ≠ .closeOne id) ∧ Happens (HasInstalled 0) steps ∧
      Happens (Builds 0 0) steps ∧
      (run {} steps).2.world.clients.map Client.closed = [false, true] := by
  intro steps
  obtain ⟨hinstalled, hbuilt⟩ := init_plainPlan
  refine ⟨by simp [steps], ⟨[], [], .init plainPlan, _, rfl, hinstalled⟩, ?_, by decide +kernel⟩
  exact ⟨[], [], .init plainPlan, _, rfl, hbuilt⟩

end AlertRelay.App

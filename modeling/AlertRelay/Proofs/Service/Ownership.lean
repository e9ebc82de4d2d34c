import AlertRelay.Proofs.Service.Step
import Mathlib.Data.List.Nodup

/-!
# Who Owns a Client

Every container has a client that no other container has. It **owns** this client if the client
was built for it, and does not if the client was given to it. A client is closed only by the
container that owns it, so the clients that are closed are told by two kinds of moments: those at
which a container was put together around a client of its own, and those at which a container was
closed, by itself or as the installed one.

## Main results

* `Change.sound`: containers keep clients of their own.
* `Change.owns_iff`, `Change.unowned_iff`, `Change.closed_iff`: what a step adds to the clients
  that are owned, that are not, and that are closed.
* `run_closed_iff`: **the clients that are closed**, after any run.
-/

namespace AlertRelay.App

open Http

/-! ### What the process holds, in order -/

/-- The installed container is there, and each container has a client of its own. -/
structure Holdings.Sound (h : Holdings) : Prop where
  installed : ∀ id, h.installed = some id → id < h.containers.length
  client : ∀ container ∈ h.containers, container.client < h.clients.length
  distinct : (h.containers.map Container.client).Nodup

/-- A container owns a client. -/
def Holdings.Owns (h : Holdings) (id k : ℕ) : Prop :=
  ∃ container, h.containers[id]? = some container ∧ container.ownsClient = true ∧
    container.client = k

/-- A client is there and has no owner. -/
def Holdings.Unowned (h : Holdings) (k : ℕ) : Prop := k < h.clients.length ∧ ∀ id, ¬h.Owns id k

/-- A client is there and is closed. -/
def Holdings.Closed (h : Holdings) (k : ℕ) : Prop :=
  ∃ c, h.clients[k]? = some c ∧ c.closed = true

/-- One client is created, and it is the one of some number. -/
def Creates (k : ℕ) (h h' : Holdings) : Prop :=
  h.clients.length = k ∧ h'.clients.length = k + 1

/-- One container is put together, and it is the one of some number. -/
def Assembles (id : ℕ) (h h' : Holdings) : Prop :=
  h.containers.length = id ∧ h'.containers.length = id + 1

/-- What stands in a longer list stood there before, or is the new one at its end. -/
theorem getElem?_append_singleton_eq_some {α : Type} {l : List α} {a b : α} {i : ℕ} :
    (l ++ [a])[i]? = some b ↔ l[i]? = some b ∨ l.length = i ∧ a = b := by
  rcases Nat.lt_trichotomy i l.length with hlt | rfl | hgt
  · rw [List.getElem?_append_left hlt, or_iff_left fun h => Nat.ne_of_gt hlt h.1]
  · simp
  · have hlength : (l ++ [a]).length ≤ i := by
      rw [List.length_append, List.length_singleton]
      exact hgt
    rw [List.getElem?_eq_none hlength, List.getElem?_eq_none (Nat.le_of_lt hgt)]
    simp [Nat.ne_of_lt hgt]

/-- What the containers own when there is one more. -/
theorem owns_append_singleton {clients : List Client} {containers : List Container}
    {container : Container} {installed : Option ℕ} {id k : ℕ} :
    Holdings.Owns ⟨clients, containers ++ [container], installed⟩ id k ↔
      Holdings.Owns ⟨clients, containers, installed⟩ id k ∨
        containers.length = id ∧ container.ownsClient = true ∧ container.client = k := by
  simp only [Holdings.Owns, getElem?_append_singleton_eq_some]
  constructor
  · rintro ⟨other, hother | ⟨hid, rfl⟩, howns, hclient⟩
    · exact .inl ⟨other, hother, howns, hclient⟩
    · exact .inr ⟨hid, howns, hclient⟩
  · rintro (⟨other, hother, howns, hclient⟩ | ⟨hid, howns, hclient⟩)
    · exact ⟨other, .inl hother, howns, hclient⟩
    · exact ⟨container, .inr ⟨hid, rfl⟩, howns, hclient⟩

/-- What a container owns does not change when others come after it. -/
theorem owns_congr {h h' : Holdings} (hgrows : h.containers <+: h'.containers) {id : ℕ}
    (hid : id < h.containers.length) (k : ℕ) : h'.Owns id k ↔ h.Owns id k := by
  obtain ⟨later, hlater⟩ := hgrows
  have hsame : h'.containers[id]? = h.containers[id]? := by
    rw [← hlater, List.getElem?_append_left hid]
  rw [Holdings.Owns, Holdings.Owns, hsame]

/-- Closing a container removes no client. -/
theorem Holdings.length_released (h : Holdings) (id : ℕ) :
    (h.released id).length = h.clients.length := by
  rw [released]
  split
  · split
    · exact List.length_modify _ _ _
    · rfl
  · rfl

section

variable {s : Step} {h h' : Holdings}

/-- A step keeps the containers that are there. -/
theorem Change.prefix_containers (hchange : Change s h h') : h.containers <+: h'.containers := by
  cases hchange with
  | keeps | gives | closes => exact List.prefix_refl _
  | builds => exact List.prefix_append _ _

/-- A step that closes no container leaves every client as it is. -/
theorem Change.prefix_clients (hchange : Change s h h') (hnone : s.closes h.installed = none) :
    h.clients <+: h'.clients := by
  cases hchange with
  | keeps => exact List.prefix_refl _
  | gives | builds => exact List.prefix_append _ _
  | closes hcloses =>
      rw [hnone] at hcloses
      cases hcloses

/-- A new client is the next one, so a container that takes it takes no other's. -/
theorem Change.sound (hchange : Change s h h') (hsound : h.Sound) : h'.Sound := by
  cases hchange with
  | keeps _ => exact hsound
  | gives _ _ _ =>
      refine ⟨hsound.installed, fun container hmem => ?_, hsound.distinct⟩
      exact Nat.lt_of_lt_of_le (hsound.client container hmem) (List.prefix_append _ _).length_le
  | @builds c container installed _ _ hclient _ hinstalled =>
      refine ⟨fun id hid => ?_, fun other hmem => ?_, ?_⟩
      · rw [List.length_append, List.length_singleton]
        rcases hinstalled with rfl | ⟨rfl, -⟩
        · exact Nat.lt_succ_of_lt (hsound.installed id hid)
        · cases hid
          exact Nat.lt_succ_self _
      · rw [List.length_append, List.length_singleton]
        rcases List.mem_append.mp hmem with hmem | hmem
        · exact Nat.lt_succ_of_lt (hsound.client other hmem)
        · rw [List.mem_singleton.mp hmem, hclient]
          exact Nat.lt_succ_self _
      · rw [List.map_append, List.map_singleton, List.nodup_append]
        refine ⟨hsound.distinct, List.nodup_singleton _, ?_⟩
        rintro _ hmem _ hlast rfl
        obtain ⟨other, hother, hsame⟩ := List.mem_map.mp hmem
        have hlt := hsound.client other hother
        rw [hsame, List.mem_singleton.mp hlast, hclient] at hlt
        exact Nat.lt_irrefl _ hlt
  | closes _ =>
      refine ⟨fun id hid => ?_, fun container hmem => ?_, hsound.distinct⟩
      · cases hremoves : s.removes with
        | false =>
            rw [hremoves] at hid
            exact hsound.installed id hid
        | true =>
            rw [hremoves] at hid
            cases hid
      · exact Nat.lt_of_lt_of_eq (hsound.client container hmem) (h.length_released _).symm

/-- A container comes to own a client in the step that puts it together around a client that it
was not given. -/
theorem Change.owns_iff (hchange : Change s h h') (id k : ℕ) :
    h'.Owns id k ↔
      h.Owns id k ∨ s.gives = false ∧ Assembles id h h' ∧ Creates k h h' := by
  have hsame : ∀ clients installed, Holdings.Owns ⟨clients, h.containers, installed⟩ id k ↔
      h.Owns id k := fun _ _ => Iff.rfl
  have hnone : ∀ clients installed, ¬Assembles id h ⟨clients, h.containers, installed⟩ := by
    rintro clients installed ⟨hbefore, hafter⟩
    exact Nat.succ_ne_self id (hafter.symm.trans hbefore)
  cases hchange with
  | keeps | gives | closes =>
      refine (hsame _ _).trans ⟨.inl, ?_⟩
      rintro (howns | ⟨-, hassembles, -⟩)
      · exact howns
      · exact absurd hassembles (hnone _ _)
  | @builds c container installed _ _ hclient howns _ =>
      rw [owns_append_singleton]
      refine or_congr (hsame _ _) ?_
      rw [howns, hclient, Bool.not_eq_true', Assembles, Creates, List.length_append,
        List.length_append, List.length_singleton, List.length_singleton]
      constructor
      · rintro ⟨rfl, hgives, rfl⟩
        exact ⟨hgives, ⟨rfl, rfl⟩, rfl, rfl⟩
      · rintro ⟨hgives, ⟨rfl, -⟩, rfl, -⟩
        exact ⟨rfl, hgives, rfl⟩

/-- A step creates one client at most. The one that it creates is given away, or a container is put
together around it. -/
theorem Change.length_clients (hchange : Change s h h') :
    h'.clients.length = h.clients.length ∨
      h'.clients.length = h.clients.length + 1 ∧
        (s.gives = true ∨ Assembles h.containers.length h h') := by
  cases hchange with
  | keeps _ => exact .inl rfl
  | gives _ hgives _ => exact .inr ⟨List.length_append, .inl hgives⟩
  | builds => exact .inr ⟨List.length_append, .inr ⟨rfl, List.length_append⟩⟩
  | closes => exact .inl (h.length_released _)

/-- No container owns a client that is not there yet. -/
theorem Holdings.Sound.lt_of_owns (hsound : h.Sound) {id k : ℕ} (howns : h.Owns id k) :
    k < h.clients.length := by
  obtain ⟨container, hcontainer, -, rfl⟩ := howns
  exact hsound.client container (List.mem_of_getElem? hcontainer)

/-- Two containers do not own the same client. -/
theorem Holdings.Sound.owner_unique (hsound : h.Sound) {id id' k : ℕ} (howns : h.Owns id k)
    (howns' : h.Owns id' k) : id = id' := by
  obtain ⟨container, hcontainer, -, hclient⟩ := howns
  obtain ⟨container', hcontainer', -, hclient'⟩ := howns'
  have hid : id < (h.containers.map Container.client).length := by
    rw [List.length_map]
    exact (List.getElem?_eq_some_iff.mp hcontainer).1
  refine (List.getElem?_inj hid hsound.distinct).mp ?_
  rw [List.getElem?_map, List.getElem?_map, hcontainer, hcontainer', Option.map_some,
    Option.map_some, hclient, hclient']

/-- A client comes to be without an owner in the step that creates it to give it away. -/
theorem Change.unowned_iff (hchange : Change s h h') (hsound : h.Sound) (k : ℕ) :
    h'.Unowned k ↔ h.Unowned k ∨ s.gives = true ∧ Creates k h h' := by
  have howns := fun id => hchange.owns_iff id k
  by_cases hcreates : Creates k h h'
  · -- The client is new: nobody owned it, and whether it is owned now depends on the step.
    have hnew : ¬h.Unowned k := fun hold => Nat.lt_irrefl k (Nat.lt_of_lt_of_eq hold.1 hcreates.1)
    have hfree : ∀ id, ¬h.Owns id k := fun id hown =>
      Nat.lt_irrefl k (Nat.lt_of_lt_of_eq (hsound.lt_of_owns hown) hcreates.1)
    rw [or_iff_right hnew, and_iff_left hcreates]
    constructor
    · rintro ⟨-, hnobody⟩
      rcases hchange.length_clients with hsame | ⟨-, hgives | hassembles⟩
      · have hlength := hsame.symm.trans hcreates.2
        exact absurd (hlength.symm.trans hcreates.1) (Nat.succ_ne_self k)
      · exact hgives
      · rw [← Bool.not_eq_false]
        exact fun hgives => hnobody _ ((howns _).mpr (.inr ⟨hgives, hassembles, hcreates⟩))
    · intro hgives
      refine ⟨Nat.lt_of_lt_of_eq (Nat.lt_succ_self k) hcreates.2.symm, fun id hown => ?_⟩
      rcases (howns id).mp hown with hown | ⟨hgives', -⟩
      · exact hfree id hown
      · rw [hgives] at hgives'
        cases hgives'
  · have hsame : ∀ id, h'.Owns id k ↔ h.Owns id k := fun id =>
      (howns id).trans (or_iff_left fun hnew => hcreates hnew.2.2)
    have hlength : k < h'.clients.length ↔ k < h.clients.length := by
      rw [Creates] at hcreates
      rcases hchange.length_clients with hlength | ⟨hlength, -⟩ <;> omega
    rw [or_iff_left fun hnew => hcreates hnew.2, Holdings.Unowned, Holdings.Unowned, hlength]
    exact and_congr_right fun _ => forall_congr' fun id => not_congr (hsame id)

/-- What is closed when there is one more client, which is open. -/
theorem closed_append_singleton {clients : List Client} {containers containers' : List Container}
    {installed installed' : Option ℕ} {c : Client} (hopen : c.closed = false) {k : ℕ} :
    Holdings.Closed ⟨clients ++ [c], containers', installed'⟩ k ↔
      Holdings.Closed ⟨clients, containers, installed⟩ k := by
  simp only [Holdings.Closed, getElem?_append_singleton_eq_some]
  constructor
  · rintro ⟨other, hother | ⟨-, rfl⟩, hclosed⟩
    · exact ⟨other, hother, hclosed⟩
    · rw [hopen] at hclosed
      cases hclosed
  · rintro ⟨other, hother, hclosed⟩
    exact ⟨other, .inl hother, hclosed⟩

/-- Closing a container closes the client that it owns. -/
theorem Holdings.Sound.closed_released (hsound : h.Sound) (id k : ℕ) (installed : Option ℕ) :
    Holdings.Closed ⟨h.released id, h.containers, installed⟩ k ↔ h.Closed k ∨ h.Owns id k := by
  rw [Holdings.released]
  cases hcontainer : h.containers[id]? with
  | none =>
      refine (or_iff_left ?_).symm
      rintro ⟨other, hother, -⟩
      rw [hcontainer] at hother
      cases hother
  | some container =>
      have howns : h.Owns id k ↔ container.ownsClient = true ∧ container.client = k := by
        simp [Holdings.Owns, hcontainer]
      rw [howns]
      dsimp only
      cases hown : container.ownsClient with
      | false => simp [Holdings.Closed]
      | true =>
          have hthere := hsound.client container (List.mem_of_getElem? hcontainer)
          simp only [if_true, Holdings.Closed, List.getElem?_modify, true_and]
          by_cases hk : container.client = k
          · subst hk
            simp [List.getElem?_eq_getElem hthere]
          · simp [hk]

/-- A client comes to be closed in the step that closes the container that owns it. -/
theorem Change.closed_iff (hchange : Change s h h') (hsound : h.Sound) (k : ℕ) :
    h'.Closed k ↔ h.Closed k ∨ ∃ id, h.Owns id k ∧ s.closes h.installed = some id := by
  have hnobody : s.closes h.installed = none →
      ¬∃ id, h.Owns id k ∧ s.closes h.installed = some id := by
    rintro hnone ⟨id, -, hcloses⟩
    rw [hnone] at hcloses
    cases hcloses
  cases hchange with
  | keeps hnone => exact (or_iff_left (hnobody hnone)).symm
  | gives hnone _ hopen =>
      exact (closed_append_singleton hopen).trans (or_iff_left (hnobody hnone)).symm
  | builds hnone hopen _ _ _ =>
      exact (closed_append_singleton hopen).trans (or_iff_left (hnobody hnone)).symm
  | @closes id hcloses =>
      rw [hsound.closed_released]
      refine or_congr_right ⟨fun howns => ⟨id, howns, hcloses⟩, ?_⟩
      rintro ⟨other, howns, hother⟩
      rw [Option.some.inj (hcloses.symm.trans hother)]
      exact howns

end

/-! ### What happens to a client -/

/-- A client is created and given to a container, which may fail to be put together. -/
def Gives (k : ℕ) : Event := fun app env s =>
  s.gives = true ∧ Creates k app.holdings (step env app s).2.holdings

/-- A container is put together without a client, and a client is built for it. -/
def Builds (id k : ℕ) : Event := fun app env s =>
  s.gives = false ∧ Assembles id app.holdings (step env app s).2.holdings ∧
    Creates k app.holdings (step env app s).2.holdings

/-- A container is closed: by itself, or as the one that is installed. -/
def Closes (id : ℕ) : Event := fun app _ s =>
  s.closes app.installed = some id ∧ id < app.containers.length

/-- The container that owns a client is closed. -/
def ClosesOwner (k : ℕ) : Event := fun app _ s =>
  ∃ id, app.holdings.Owns id k ∧ s.closes app.installed = some id

/-- Whether a step is a request to the service. -/
def Step.isRequest : Step → Bool
  | .request .. => true
  | .new _ | .init _ | .initDefault | .get | .close | .closeOne _ | .start _ | .stop => false

/-- Whether an answer says that a container could not be put together. -/
def Answer.isFailure : Answer → Bool
  | .refused _ | .failed _ => true
  | .container .. | .built .. | .started .. | .done | .answered _ => false

/-- A request closes no container. -/
theorem closes_of_isRequest {s : Step} (h : s.isRequest = true) (installed : Option ℕ) :
    s.closes installed = none := by
  cases s with
  | request call replies => rfl
  | new | init | initDefault | get | close | closeOne | start | stop => cases h

/-- A step that fails closes no container. -/
theorem closes_of_isFailure {env : Environment} {app : App} {s : Step}
    (h : (step env app s).1.isFailure = true) : s.closes app.installed = none := by
  cases s with
  | close | closeOne | stop => cases h
  | new | init | initDefault | get | start | request => rfl

/-! ### Runs -/

section

variable (steps : List (Environment × Step))

/-- What the process holds is sound after any run. -/
theorem run_sound : (run {} steps).2.holdings.Sound :=
  run_invariant (I := fun app => app.holdings.Sound)
    ⟨nofun, fun _ hmem => absurd hmem List.not_mem_nil, List.nodup_nil⟩
    (fun env app s hsound => (step_change env app s).sound hsound) steps

/-- The containers of a run are still there, as they were, when it goes on. -/
theorem run_prefix_containers (later : List (Environment × Step)) :
    (run {} steps).2.containers <+: (run {} (steps ++ later)).2.containers := by
  induction later using List.reverseRecOn with
  | nil => simp
  | append_singleton later last ih =>
      rw [← List.append_assoc, run_append_singleton]
      exact ih.trans (step_change last.1 _ last.2).prefix_containers

/-- A container was put together around a client of its own exactly if it owns that client. -/
theorem happens_builds_iff (id k : ℕ) :
    Happens (Builds id k) steps ↔ (run {} steps).2.holdings.Owns id k :=
  happens_iff (I := fun _ => True) (Q := fun app => app.holdings.Owns id k) (fun _ => trivial)
    (by rintro ⟨_, hnone, -⟩; cases hnone)
    (fun env app s _ => (step_change env app s).owns_iff id k) steps

/-- A client was given exactly if no container owns it. -/
theorem happens_gives_iff (k : ℕ) :
    Happens (Gives k) steps ↔ (run {} steps).2.holdings.Unowned k :=
  happens_iff (I := fun app => app.holdings.Sound) (Q := fun app => app.holdings.Unowned k)
    run_sound (fun hnone => Nat.not_lt_zero k hnone.1)
    (fun env app s hsound => (step_change env app s).unowned_iff hsound k) steps

/-- The owner of a client was closed exactly if the client is. -/
theorem happens_closesOwner_iff (k : ℕ) :
    Happens (ClosesOwner k) steps ↔ (run {} steps).2.holdings.Closed k :=
  happens_iff (I := fun app => app.holdings.Sound) (Q := fun app => app.holdings.Closed k)
    run_sound (by rintro ⟨_, hnone, -⟩; cases hnone)
    (fun env app s hsound => (step_change env app s).closed_iff hsound k) steps

/-- A client is closed when a container was built around it and closed, and only then. The
container that is closed at some moment owns what it owns at the end of the run, since it is
there already. -/
theorem closed_iff_happens (k : ℕ) :
    (run {} steps).2.holdings.Closed k ↔
      ∃ id, Happens (Builds id k) steps ∧ Happens (Closes id) steps := by
  rw [← happens_closesOwner_iff]
  constructor
  · rintro ⟨before, env, s, after, rfl, id, howns, hcloses⟩
    have hbuilt := (happens_builds_iff before id k).mpr howns
    obtain ⟨container, hcontainer, -⟩ := howns
    have hid : id < (run {} before).2.containers.length :=
      (List.getElem?_eq_some_iff.mp hcontainer).1
    exact ⟨id, hbuilt.append _, before, env, s, after, rfl, hcloses, hid⟩
  · rintro ⟨id, hbuilt, before, env, s, after, rfl, hcloses, hid⟩
    have howns := (happens_builds_iff _ id k).mp hbuilt
    have hsame : (run {} (before ++ (env, s) :: after)).2.holdings.Owns id k ↔
        (run {} before).2.holdings.Owns id k :=
      owns_congr (run_prefix_containers before _) hid k
    exact ⟨before, env, s, after, rfl, id, hsame.mp howns, hcloses⟩

end

/-- **The clients that are closed.** After any run:

* a client is closed just when some container was built around it and that container was closed,
  by itself or as the installed one;
* every client was built for a container or given to one, and those that were given are open;
* a request, or a step that fails to put a container together, leaves all clients as they are. -/
theorem run_closed_iff (steps : List (Environment × Step)) :
    (∀ k c, (run {} steps).2.world.clients[k]? = some c →
        (c.closed = true ↔ ∃ id, Happens (Builds id k) steps ∧ Happens (Closes id) steps)) ∧
      (∀ k < (run {} steps).2.world.clients.length,
        (∃ id, Happens (Builds id k) steps) ∨ Happens (Gives k) steps) ∧
      (∀ k, Happens (Gives k) steps →
        ∃ c, (run {} steps).2.world.clients[k]? = some c ∧ c.closed = false) ∧
      ∀ env s, s.isRequest = true ∨ (step env (run {} steps).2 s).1.isFailure = true →
        (run {} steps).2.world.clients <+: (step env (run {} steps).2 s).2.world.clients := by
  refine ⟨?closed, ?origin, ?given, ?kept⟩
  case closed =>
    intro k c hc
    rw [← closed_iff_happens]
    constructor
    · exact fun hclosed => ⟨c, hc, hclosed⟩
    · rintro ⟨other, hother, hclosed⟩
      rwa [Option.some.inj (hc.symm.trans hother)]
  case origin =>
    intro k hk
    simp only [happens_builds_iff, happens_gives_iff]
    by_cases howned : ∃ id, (run {} steps).2.holdings.Owns id k
    · exact .inl howned
    · exact .inr ⟨hk, not_exists.mp howned⟩
  case given =>
    intro k hgives
    obtain ⟨hk, hnobody⟩ := (happens_gives_iff steps k).mp hgives
    refine ⟨_, List.getElem?_eq_getElem hk, Bool.eq_false_iff.mpr fun hclosed => ?_⟩
    obtain ⟨id, hbuilt, -⟩ :=
      (closed_iff_happens steps k).mp ⟨_, List.getElem?_eq_getElem hk, hclosed⟩
    exact hnobody id ((happens_builds_iff steps id k).mp hbuilt)
  case kept =>
    rintro env s (hrequest | hfailure)
    · exact (step_change env _ s).prefix_clients (closes_of_isRequest hrequest _)
    · exact (step_change env _ s).prefix_clients (closes_of_isFailure hfailure)

end AlertRelay.App

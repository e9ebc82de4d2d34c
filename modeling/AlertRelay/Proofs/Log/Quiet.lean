import AlertRelay.Proofs.Log.Console

/-!
# The Quieted Loggers

The two connection loggers are given the root's level up to `DEBUG` and `WARNING` above it, and
the loggers below them inherit that. With a root level up to `WARNING` they write no record that
another logger would not write. Above it they do: `WARNING` is then less than what the root asks
for, and their records from 30 up to the root's level are written while all others of these levels
are not.

## Main results

* `Console.Settled.goesBy_of_quieted`, `Console.Settled.measuresBy_of_not_quieted`: the levels of
  the two kinds of loggers.
* `Console.run_quieted`: **where quieted loggers are noisier than the rest, and where not.**
-/

namespace AlertRelay.Log

/-- The loggers that are quieted: those that get a level of their own, and all below them. -/
def Quieted (name : String) : Prop :=
  ∃ family, (family = connectionLogger ∨ family = transportLogger) ∧
    (family = name ∨ Below name family)

/-- A name of fewer than five characters is not quieted. -/
theorem not_quieted_of_length_lt {name : String} (h : name.length < 5) : ¬Quieted name := by
  rintro ⟨family, hfamily, hname⟩
  have hlong : 5 ≤ family.length := by
    obtain rfl | rfl := hfamily <;> decide
  obtain rfl | hbelow := hname
  · omega
  · have := hbelow.length_lt
    omega

/-- A name that is quieted is not the one of the root. -/
theorem Quieted.loggerNamed_eq {name : String} (h : Quieted name) : loggerNamed name = name := by
  rw [loggerNamed, if_neg]
  rintro rfl
  exact not_quieted_of_length_lt (by decide) h

/-- The root logger is not quieted under either of its names. -/
theorem not_quieted_loggerNamed {name : String} (h : ¬Quieted name) :
    ¬Quieted (loggerNamed name) := by
  rw [loggerNamed]
  split
  case isTrue => exact not_quieted_of_length_lt (by decide)
  case isFalse => exact h

/-- The level of the quieted loggers is the root's up to `DEBUG`, and `WARNING` above it. -/
theorem quietedLevel_cases (root : Int) :
    root ≤ 10 ∧ quietedLevel root = root ∨ 10 < root ∧ quietedLevel root = 30 := by
  rw [quietedLevel]
  split
  case isTrue h => exact .inl ⟨h, rfl⟩
  case isFalse h => exact .inr ⟨Int.not_le.mp h, rfl⟩

namespace Console

variable {c : Console} {name text : String} {level effective : Int}

/-- Quieted loggers go by the level that the set-up gave them. -/
theorem Settled.goesBy_of_quieted (h : c.Settled text) (hname : Quieted name) :
    GoesBy c.ownLevel c.root name (quietedLevel c.root) := by
  obtain ⟨family, hfamily, hreaches⟩ := hname
  have hshared : ∀ other, c.ownLevel other ≠ 0 → c.ownLevel other = quietedLevel c.root :=
    fun other hother => h.root ▸ h.ownLevel_eq hother
  by_cases hlevel : c.ownLevel family = 0
  · -- the level that was given is 0; then the root's is too, and there are no other levels
    have hzero : quietedLevel c.root = 0 := by
      rw [h.root, ← h.ownLevel_given hfamily, hlevel]
    refine .inr ⟨fun ancestor _ => ?_, ?_⟩
    · by_contra hancestor
      exact hancestor ((hshared ancestor hancestor).trans hzero)
    · obtain ⟨-, heq⟩ | ⟨-, heq⟩ := quietedLevel_cases c.root
      · exact heq
      · exact absurd (heq.symm.trans hzero) (by decide)
  · exact goesBy_of_reaches hshared hreaches hlevel

/-- All other loggers measure by the root's level. -/
theorem measuresBy_of_not_quieted (hname : ¬Quieted name) (h : c.MeasuresBy name effective) :
    effective = c.root := by
  obtain ⟨⟨ancestor, hgoverns, -⟩ | ⟨-, hroot⟩⟩ | ⟨-, hroot⟩ := h
  · exact absurd ⟨ancestor, eq_of_ownLevel_ne_zero hgoverns.level, hgoverns.reaches⟩ hname
  · exact hroot
  · exact hroot

/-- Quieted loggers measure by the level that they were given, or perhaps by the root's. -/
theorem Settled.measuresBy_of_quieted (h : c.Settled text) (hname : Quieted name)
    (hmeasures : c.MeasuresBy name effective) :
    effective = quietedLevel c.root ∨ ¬Regular name ∧ effective = c.root :=
  hmeasures.imp_left fun hgoes => (existsUnique_goesBy ..).unique hgoes (h.goesBy_of_quieted hname)

/-- Whether a record is written, by a level that its logger measures by. -/
theorem Settled.log_ne_nil_iff (h : c.Settled text) (name : String) (level : Int)
    (message time : String) :
    ∃ effective, c.MeasuresBy (loggerNamed name) effective ∧
      ((c.log name level message time).1 ≠ [] ↔ 0 < level ∧ effective ≤ level) := by
  obtain ⟨effective, hmeasures, hlines⟩ := h.log_lines name level message time
  refine ⟨effective, hmeasures, ?_⟩
  rw [hlines]
  split <;> simp [*]

/-- **Where quieted loggers are noisier than the rest.** After steps with a set-up among them, a
level below 30 or at least the root's is written by a quieted logger only if every other one would
write it too. From 30 up to the root's level it is the other way round: a quieted logger writes it
and no other one does, names with two dots in a row apart. -/
theorem run_quieted (start : Console) (steps : List Step) (text : String)
    (hlast : lastSetUp? steps = some text) (quieted outside : String) (hquieted : Quieted quieted)
    (houtside : ¬Quieted outside) (level : Int) (message message' time time' : String) :
    let c := (start.run steps).2
    (level < 30 ∨ resolveLevel text ≤ level →
      (c.log quieted level message time).1 ≠ [] → (c.log outside level message' time').1 ≠ []) ∧
    (30 ≤ level ∧ level < resolveLevel text → Regular quieted →
      (c.log quieted level message time).1 ≠ [] ∧ (c.log outside level message' time').1 = []) := by
  intro c
  have hsettled : c.Settled text := run_settled hlast _
  rw [← hsettled.root]
  clear_value c
  obtain ⟨effective, hmeasures, hiff⟩ := hsettled.log_ne_nil_iff quieted level message time
  obtain ⟨effective', hmeasures', hiff'⟩ := hsettled.log_ne_nil_iff outside level message' time'
  rw [hquieted.loggerNamed_eq] at hmeasures
  obtain rfl : effective' = c.root :=
    measuresBy_of_not_quieted (not_quieted_loggerNamed houtside) hmeasures'
  have hcases := quietedLevel_cases c.root
  constructor
  · intro hrange hwritten
    have hmeasured := hiff.mp hwritten
    have hlevel := hsettled.measuresBy_of_quieted hquieted hmeasures
    exact hiff'.mpr ⟨hmeasured.1, by omega⟩
  · intro hrange hregular
    have hlevel : effective = quietedLevel c.root :=
      hmeasures.eq_of_regular hregular (hsettled.goesBy_of_quieted hquieted)
    constructor
    · exact hiff.mpr ⟨by omega, by omega⟩
    · by_contra hwritten
      have hmeasured := hiff'.mp hwritten
      omega

/-- With a root level of 40, a warning of one of the quieted loggers is written and another
logger's is not. -/
theorem run_quieted_noisier :
    let c := ((withHandlers 0).run [.setUp "ERROR"]).2
    (c.log "httpx" 30 "m" "12:00").1 = ["12:00 - httpx - WARNING - m\n"] ∧
      (c.log "app" 30 "m" "12:00").1 = [] := by
  intro c
  exact ⟨by decide, by decide⟩

/-- After a set-up with an unknown level, a connection writes an error only where other loggers do.
-/
theorem run_quieted_of_info :
    let c := ((withHandlers 1).run [.setUp "chatty", .log "app" 20 "m" "12:00"]).2
    Quieted "httpcore.connection" ∧ ¬Quieted "httpxx" ∧
      ((c.log "httpcore.connection" 40 "m" "12:01").1 ≠ [] → (c.log "httpxx" 40 "m" "12:01").1 ≠ [])
      := by
  intro c
  have hinside : Quieted "httpcore.connection" :=
    ⟨transportLogger, .inr rfl, .inr ⟨"connection", by decide⟩⟩
  have houtside : ¬Quieted "httpxx" := by
    simp only [Quieted, below_iff, or_and_right, exists_or, exists_eq_left]
    decide
  have hinfo : resolveLevel "chatty" ≤ 40 := by decide
  exact ⟨hinside, houtside,
    (run_quieted (withHandlers 1) _ "chatty" rfl _ _ hinside houtside 40 _ _ _ _).1 (.inr hinfo)⟩

end Console

end AlertRelay.Log

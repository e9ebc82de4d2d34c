import AlertRelay.Proofs.Log.Tree

/-!
# What the Console Writes

A set-up leaves one handler and three levels that its text alone decides. Records change none of
these: they add loggers and decisions, and a decision that a logger keeps is one that its levels
would still make. So between two set-ups the console is `Settled`, whatever came before the first
of them, and every record is written once or not at all by its level and the tree's.

Loggers whose names have two dots in a row may have been measured against the root's level before
a logger in between existed, and keep to that (`MeasuresBy`).

## Main results

* `Console.setUp_settled`, `Console.log_settled`: what the two steps make and keep.
* `Console.run_settled`: **the last set-up decides.**
* `Console.Settled.log_lines`: what a record writes.
* `Console.run_last_setUp`: **the last set-up wins**: handlers, levels and every later record.
-/

namespace AlertRelay.Log

/-- The text of the last set-up so far, after one more step. -/
def Step.latest (last : Option String) : Step → Option String
  | .setUp text => some text
  | .log .. => last

/-- The text of the last set-up among some steps. -/
def lastSetUp? (steps : List Step) : Option String := steps.foldl Step.latest none

namespace Console

variable {c : Console} {name text : String} {level : Int}

/-- A level that a logger may measure a record against: the one that it goes by in the tree, and,
if its name has two dots in a row, perhaps the root's. -/
def MeasuresBy (c : Console) (name : String) (level : Int) : Prop :=
  GoesBy c.ownLevel c.root name level ∨ ¬Regular name ∧ level = c.root

/-- A console since the set-up with a text. -/
structure Settled (text : String) (c : Console) : Prop where
  handlers : c.handlers = [.standardOutput]
  root : c.root = resolveLevel text
  connection : c.connection = quietedLevel (resolveLevel text)
  transport : c.transport = quietedLevel (resolveLevel text)
  connection_mem : connectionLogger ∈ c.loggers
  transport_mem : transportLogger ∈ c.loggers
  decisions : ∀ name level written, ((name, level), written) ∈ c.decisions →
    ∃ effective, c.MeasuresBy name effective ∧ (written = true ↔ 0 < level ∧ effective ≤ level)

/-! ### The two steps -/

/-- Every handler is taken away when all are, one by one. -/
theorem foldl_erase_self (handlers : List Handler) : handlers.foldl List.erase handlers = [] := by
  induction handlers with
  | nil => rfl
  | cons first rest ih => rw [List.foldl_cons, List.erase_cons_head, ih]

/-- A console is settled by its set-up. -/
theorem setUp_settled (text : String) (c : Console) : (c.setUp text).Settled text where
  handlers := by rw [setUp, foldl_erase_self, List.nil_append]
  root := by rw [setUp]
  connection := by rw [setUp]
  transport := by rw [setUp]
  connection_mem := List.mem_insert_of_mem (List.mem_insert_self)
  transport_mem := List.mem_insert_self
  decisions := fun _ _ _ h => by rw [setUp] at h; cases h

/-- The two loggers that are set up have the same level. -/
theorem Settled.ownLevel_given (h : c.Settled text)
    (hname : name = connectionLogger ∨ name = transportLogger) :
    c.ownLevel name = quietedLevel (resolveLevel text) := by
  obtain rfl | rfl := hname
  · rw [ownLevel, if_pos rfl, h.connection]
  · rw [ownLevel, if_neg (by decide), if_pos rfl, h.transport]

/-- All levels but the root's are the same. -/
theorem Settled.ownLevel_eq (h : c.Settled text) (hlevel : c.ownLevel name ≠ 0) :
    c.ownLevel name = quietedLevel (resolveLevel text) :=
  h.ownLevel_given (eq_of_ownLevel_ne_zero hlevel)

/-- A logger with a level was asked for at the set-up. -/
theorem Settled.mem_loggers (h : c.Settled text) (hlevel : c.ownLevel name ≠ 0) :
    name ∈ c.loggers := by
  obtain rfl | rfl := eq_of_ownLevel_ne_zero hlevel
  · exact h.connection_mem
  · exact h.transport_mem

/-- The level that a logger goes by is one that it may measure records against. -/
theorem Settled.effectiveLevel_measures (h : c.Settled text) (name : String) :
    c.MeasuresBy name (c.effectiveLevel name) := by
  by_cases hregular : Regular name
  · exact .inl (effectiveLevel_goesBy (fun _ => h.mem_loggers) hregular)
  obtain hroot | ⟨ancestor, hreaches, hlevel, heq⟩ := effectiveLevel_cases c name
  · exact .inr ⟨hregular, hroot⟩
  · rw [heq, h.ownLevel_eq hlevel]
    exact .inl (goesBy_of_reaches (fun _ => h.ownLevel_eq) hreaches hlevel)

/-- A decision, kept or made anew, is one by a level that the logger may measure against. -/
theorem Settled.decision_iff (h : c.Settled text) (name : String) (level : Int) :
    ∃ effective, c.MeasuresBy name effective ∧
      (c.decision name level = true ↔ 0 < level ∧ effective ≤ level) := by
  rw [decision]
  cases hkept : c.decisions.lookup (name, level) with
  | some written =>
    obtain ⟨front, back, heq, -⟩ := List.lookup_eq_some_iff.mp hkept
    exact h.decisions name level written (heq ▸ List.mem_append_right _ (List.mem_cons_self ..))
  | none => exact ⟨c.effectiveLevel name, h.effectiveLevel_measures name, by simp⟩

/-- A logger more changes nothing that was settled. -/
theorem Settled.insert (h : c.Settled text) (name : String) :
    ({ c with loggers := c.loggers.insert name } : Console).Settled text where
  handlers := h.handlers
  root := h.root
  connection := h.connection
  transport := h.transport
  connection_mem := List.mem_insert_of_mem h.connection_mem
  transport_mem := List.mem_insert_of_mem h.transport_mem
  decisions := h.decisions

/-- A record leaves a settled console settled. -/
theorem log_settled (h : c.Settled text) (name : String) (level : Int) (message time : String) :
    (c.log name level message time).2.Settled text := by
  have hinserted := h.insert (loggerNamed name)
  refine { hinserted with decisions := fun name' level' written' hmem => ?_ }
  obtain heq | hmem := List.mem_cons.mp hmem
  · cases heq
    exact hinserted.decision_iff _ _
  · exact h.decisions name' level' written' hmem

/-- What a record writes to a settled console: one line or nothing. -/
theorem Settled.log_lines (h : c.Settled text) (name : String) (level : Int)
    (message time : String) :
    ∃ effective, c.MeasuresBy (loggerNamed name) effective ∧
      (c.log name level message time).1 =
        if 0 < level ∧ effective ≤ level then [line time (loggerNamed name) level message]
        else [] := by
  obtain ⟨effective, hmeasures, hiff⟩ :=
    (h.insert (loggerNamed name)).decision_iff (loggerNamed name) level
  have hlines : (c.handlers.filter (· = .standardOutput)).map
      (fun _ => line time (loggerNamed name) level message) =
        [line time (loggerNamed name) level message] := by
    rw [h.handlers]
    rfl
  refine ⟨effective, hmeasures, ?_⟩
  rw [log, hlines]
  exact if_congr hiff rfl rfl

/-! ### Runs -/

/-- One step takes a console that the last set-up settled to one that its own last set-up did. -/
theorem step_settled {last : Option String} (h : ∀ text, last = some text → c.Settled text)
    (next : Step) : ∀ text, next.latest last = some text → (c.step next).2.Settled text := by
  intro text hlast
  cases next with
  | setUp level =>
    obtain rfl : level = text := Option.some.inj hlast
    exact setUp_settled level c
  | log name level message time => exact log_settled (h text hlast) name level message time

/-- **The last set-up decides**, whatever the console was before. -/
theorem run_settled {steps : List Step} (hlast : lastSetUp? steps = some text) (c : Console) :
    (c.run steps).2.Settled text := by
  suffices ∀ (last : Option String) (c : Console), (∀ text, last = some text → c.Settled text) →
      steps.foldl Step.latest last = some text → (c.run steps).2.Settled text from
    this none c (fun _ h => nomatch h) hlast
  clear hlast c
  induction steps with
  | nil => exact fun last c h hlast => h text hlast
  | cons next rest ih =>
    exact fun last c h hlast => ih (next.latest last) _ (step_settled h next) hlast

/-- Steps are run one after the other. -/
theorem run_append (c : Console) (before after : List Step) :
    c.run (before ++ after) =
      ((c.run before).1 ++ ((c.run before).2.run after).1, ((c.run before).2.run after).2) := by
  induction before generalizing c with
  | nil => rfl
  | cons next rest ih => simp only [List.cons_append, run, ih]

/-- Every step writes once, if only nothing. -/
theorem run_length (c : Console) (steps : List Step) : (c.run steps).1.length = steps.length := by
  induction steps generalizing c with
  | nil => rfl
  | cons next rest ih => simp only [run, List.length_cons, ih]

/-- What a step writes in the middle of a run is what it writes after the steps before it. -/
theorem run_getElem?_append (c : Console) (before after : List Step) (next : Step) :
    (c.run (before ++ next :: after)).1[before.length]? =
      some ((c.run before).2.step next).1 := by
  rw [run_append, List.getElem?_append_right (run_length c before).le, run_length, Nat.sub_self]
  rfl

/-- A logger with a regular name measures by the tree alone. -/
theorem MeasuresBy.eq_of_regular {effective : Int} (h : c.MeasuresBy name effective)
    (hregular : Regular name) (hgoes : GoesBy c.ownLevel c.root name level) : effective = level :=
  (existsUnique_goesBy ..).unique (h.resolve_right fun hroot => hroot.1 hregular) hgoes

/-- What a record of a logger with a regular name writes is told by the text of the last set-up. -/
theorem Settled.log_fst_congr {c' : Console} (h : c.Settled text) (h' : c'.Settled text)
    (hregular : Regular (loggerNamed name)) (level : Int) (message time : String) :
    (c.log name level message time).1 = (c'.log name level message time).1 := by
  obtain ⟨effective, hmeasures, heq⟩ := h.log_lines name level message time
  obtain ⟨effective', hmeasures', heq'⟩ := h'.log_lines name level message time
  have hown : c.ownLevel = c'.ownLevel := by
    funext other
    simp only [ownLevel, h.connection, h.transport, h'.connection, h'.transport]
  have hgoes := hmeasures'.resolve_right fun hroot => hroot.1 hregular
  rw [← hown, h'.root, ← h.root] at hgoes
  rw [heq, heq', hmeasures.eq_of_regular hregular hgoes]

/-- Repeated with the same text, the last set-up is the same. -/
theorem lastSetUp?_append_replicate {steps : List Step} (hlast : lastSetUp? steps = some text)
    (repeats : Nat) :
    lastSetUp? (steps ++ List.replicate repeats (.setUp text)) = some text := by
  induction repeats with
  | zero => simpa using hlast
  | succ repeats ih =>
    rw [List.replicate_succ', ← List.append_assoc, lastSetUp?, List.foldl_append]
    rfl

/-- **The last set-up wins.** Whatever the console was at the start and however many handlers it
had, after steps with a set-up among them there is one handler, and the three levels are those of
the last text. A record of any logger then writes one line, with the time in front, if its level is
positive and at least the one that its logger goes by, and nothing otherwise; for a name with two
dots in a row the root's level may stand in. Setting up again with the same text makes no
difference to the records of all other loggers. -/
theorem run_last_setUp (start : Console) (steps : List Step) (text : String)
    (hlast : lastSetUp? steps = some text) :
    let c := (start.run steps).2
    c.handlers = [.standardOutput] ∧
    c.root = (levelNamed? (Text.upper (Text.strip text))).getD (Level.rank .info) ∧
    c.connection = (if c.root ≤ Level.rank .debug then c.root else Level.rank .warning) ∧
    c.transport = (if c.root ≤ Level.rank .debug then c.root else Level.rank .warning) ∧
    ∀ name level message time,
      (∀ after, ∃ effective, c.MeasuresBy (loggerNamed name) effective ∧
        (start.run (steps ++ .log name level message time :: after)).1[steps.length]? =
          some (if 0 < level ∧ effective ≤ level then
            [line time (loggerNamed name) level message] else [])) ∧
      ∀ repeats, Regular (loggerNamed name) →
        ((start.run (steps ++ List.replicate repeats (.setUp text))).2.log
            name level message time).1 =
          (c.log name level message time).1 := by
  intro c
  have hsettled : c.Settled text := run_settled hlast _
  refine ⟨hsettled.handlers, hsettled.root, ?_, ?_, fun name level message time => ⟨?_, ?_⟩⟩
  · rw [hsettled.connection, hsettled.root, quietedLevel]
  · rw [hsettled.transport, hsettled.root, quietedLevel]
  · intro after
    obtain ⟨effective, hmeasures, heq⟩ := hsettled.log_lines name level message time
    refine ⟨effective, hmeasures, ?_⟩
    rw [run_getElem?_append, ← heq]
    rfl
  · intro repeats hregular
    exact (run_settled (lastSetUp?_append_replicate hlast repeats) _).log_fst_congr hsettled
      hregular level message time

/-- The second of two set-ups decides, whatever was written between them, and repeating it changes
nothing. -/
theorem run_last_setUp_twice :
    let steps := [Step.setUp "ERROR", .log "httpx" 30 "GET" "12:00", .setUp " debug "]
    let c := ((withHandlers 2).run steps).2
    lastSetUp? steps = some " debug " ∧ c.handlers = [.standardOutput] ∧ c.root = 10 ∧
      c.connection = 10 ∧
      (((withHandlers 2).run (steps ++ [.setUp " debug ", .setUp " debug "])).2.log
          "httpx.pool" 10 "GET" "12:01").1 = ["12:01 - httpx.pool - DEBUG - GET\n"] := by
  intro steps c
  have hlast : lastSetUp? steps = some " debug " := rfl
  have hroot : (levelNamed? (Text.upper (Text.strip " debug "))).getD (Level.rank .info) = 10 := by
    decide
  obtain ⟨hhandlers, hlevel, hconnection, -, hrecord⟩ :=
    run_last_setUp (withHandlers 2) steps _ hlast
  rw [hroot] at hlevel
  have hregular : Regular "httpx.pool" := by
    rw [regular_iff]
    decide
  refine ⟨hlast, hhandlers, hlevel, ?_, ?_⟩
  · rw [hconnection, hlevel]
    rfl
  · exact ((hrecord "httpx.pool" 10 "GET" "12:01").2 2 hregular).trans (by decide)

/-- With two dots in a row an ancestor is missed: the logger stands below one that asks for 30, and
writes a record of level 25. -/
theorem run_misses_ancestor :
    let c := ((withHandlers 0).run [.setUp "INFO"]).2
    GoesBy c.ownLevel c.root "httpx..b" 30 ∧
      (c.log "httpx..b" 25 "m" "12:00").1 = ["12:00 - httpx..b - Level 25 - m\n"] := by
  intro c
  refine ⟨.inl ⟨"httpx", ⟨.inr ⟨".b", by decide⟩, by decide, ?_⟩, by decide⟩, by decide⟩
  intro other hother hlevel
  obtain rfl | rfl := eq_of_ownLevel_ne_zero hlevel
  · exact le_rfl
  · obtain h | h := hother
    · exact absurd h (by decide)
    · exact absurd h.length_lt (by decide)

end Console

end AlertRelay.Log

import AlertRelay.Log.Record
import AlertRelay.Text.Blank
import AlertRelay.Text.Case

/-!
# The console log

Loggers stand in a tree that their names describe: what stands before a dot is an ancestor. A
record goes to the handlers of the root logger when its level is at least the one that its logger
goes by, which is its own or, if it has none, that of the nearest ancestor with a level.

An ancestor counts once there is a logger of its name. A logger decides once whether a level is
written and keeps to that decision until levels are set anew.

## Main definitions

* `Console`: the handlers, the levels and the loggers of a process.
* `Console.setUp`: one handler for standard output, with a level given by its name.
* `Console.effectiveLevel`: the level that a logger goes by.
* `Console.log`: what a record writes to standard output.
* `Console.step`, `Console.run`: steps of both kinds.
-/

namespace AlertRelay.Log

/-- Where the root logger hands its records on. -/
inductive Handler
  | silent
  | standardOutput
  deriving DecidableEq, Repr

/-- The handlers of the root logger, the levels of the loggers that may have one (0 for none), the
loggers that there are, and what loggers have decided about levels. -/
structure Console where
  handlers : List Handler := []
  root : Int := Level.rank .warning
  connection : Int := 0
  transport : Int := 0
  loggers : List String := []
  decisions : List ((String × Int) × Bool) := []
  deriving DecidableEq, Repr

/-- A step of a process that logs. A record has the time of day in front of it. -/
inductive Step
  | setUp (level : String)
  | log (logger : String) (level : Int) (text time : String)
  deriving DecidableEq, Repr

/-- The name of the logger below which requests are logged. -/
def connectionLogger : String := "httpx"

/-- The name of the logger below which connections are logged. -/
def transportLogger : String := "httpcore"

/-- The name of the root logger. -/
def rootLogger : String := "root"

/-- The name under which a logger is kept: the root logger also goes by the empty name. -/
def loggerNamed (name : String) : String := if name = "" then rootLogger else name

/-- The number of a level name. -/
def levelNamed? (name : String) : Option Int :=
  [("CRITICAL", 50), ("FATAL", 50), ("ERROR", 40), ("WARN", 30), ("WARNING", 30), ("INFO", 20),
   ("DEBUG", 10), ("NOTSET", 0)].lookup name

/-- The level that a text names, blanks and case apart; `INFO` if it names none. -/
def resolveLevel (text : String) : Int :=
  (levelNamed? (Text.upper (Text.strip text))).getD (Level.rank .info)

/-- The level of the connection loggers: they join in at `DEBUG` and are quieted above it. -/
def quietedLevel (level : Int) : Int :=
  if level ≤ Level.rank .debug then level else Level.rank .warning

/-- The name of a level number as records show it. -/
def levelName (level : Int) : String :=
  match [Level.debug, .info, .warning, .error, .critical].find? fun l => l.rank = level with
  | some l => l.name
  | none => if level = 0 then "NOTSET" else "Level " ++ level.repr

namespace Console

/-- The console of a process whose root logger has some handlers already. -/
def withHandlers (count : Nat) : Console := { handlers := List.replicate count .silent }

/-- Takes away the handlers one by one, adds one for standard output and sets the levels, whereby
what was decided about levels is forgotten. -/
def setUp (level : String) (c : Console) : Console :=
  let root := resolveLevel level
  { handlers := c.handlers.foldl List.erase c.handlers ++ [.standardOutput]
    root
    connection := quietedLevel root
    transport := quietedLevel root
    loggers := (c.loggers.insert connectionLogger).insert transportLogger
    decisions := [] }

/-- The own level of the logger of a name. -/
def ownLevel (c : Console) (name : String) : Int :=
  if name = connectionLogger then c.connection
  else if name = transportLogger then c.transport
  else 0

/-- The level that a logger inherits, its name given in reverse: it is handed on by the nearest
logger that there is among those whose names stand before a dot. Right before a dot that was tried
in vain, another one is not. -/
def inheritedLevel (c : Console) : List Char → Int
  | [] => c.root
  | '.' :: last :: rest =>
    let ancestor := String.ofList (last :: rest).reverse
    if ancestor ∈ c.loggers then
      if c.ownLevel ancestor ≠ 0 then c.ownLevel ancestor else c.inheritedLevel (last :: rest)
    else
      c.inheritedLevel rest
  | _ :: rest => c.inheritedLevel rest

/-- The level that a logger goes by: its own, or else the one that it inherits. -/
def effectiveLevel (c : Console) (name : String) : Int :=
  if c.ownLevel name ≠ 0 then c.ownLevel name else c.inheritedLevel name.toList.reverse

/-- Whether a logger writes the records of a level: what it decided before, or else whether the
level is positive and at least the one that it goes by. -/
def decision (c : Console) (name : String) (level : Int) : Bool :=
  (c.decisions.lookup (name, level)).getD
    (decide (0 < level) && decide (c.effectiveLevel name ≤ level))

/-- A record as standard output shows it. -/
def line (time name : String) (level : Int) (text : String) : String :=
  time ++ " - " ++ name ++ " - " ++ levelName level ++ " - " ++ text ++ "\n"

/-- The lines that a record writes to standard output, one for each handler, and the console after
it. -/
def log (name : String) (level : Int) (text time : String) (c : Console) :
    List String × Console :=
  let name := loggerNamed name
  let c := { c with loggers := c.loggers.insert name }
  let written := c.decision name level
  let lines := (c.handlers.filter (· = .standardOutput)).map fun _ => line time name level text
  (if written then lines else [],
    { c with decisions := ((name, level), written) :: c.decisions })

/-- What a step writes to standard output, and the console after it. -/
def step (c : Console) : Step → List String × Console
  | .setUp level => ([], c.setUp level)
  | .log name level text time => c.log name level text time

/-- What each of some steps writes to standard output, and the console after them. -/
def run (c : Console) : List Step → List (List String) × Console
  | [] => ([], c)
  | first :: rest =>
    let (lines, c) := c.step first
    let (more, c) := c.run rest
    (lines :: more, c)

end Console

end AlertRelay.Log

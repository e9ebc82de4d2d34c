/-!
# Log records

## Main definitions

* `Level`: the named levels.
* `Record`: what is logged, by whom and at which level.
-/

namespace AlertRelay.Log

/-- The named levels. -/
inductive Level
  | debug
  | info
  | warning
  | error
  | critical
  deriving DecidableEq, Repr

/-- The number of a level. -/
def Level.rank : Level → Int
  | .debug => 10
  | .info => 20
  | .warning => 30
  | .error => 40
  | .critical => 50

/-- The name of a level. -/
def Level.name : Level → String
  | .debug => "DEBUG"
  | .info => "INFO"
  | .warning => "WARNING"
  | .error => "ERROR"
  | .critical => "CRITICAL"

/-- A record of a logger. -/
structure Record where
  logger : String
  level : Level
  message : String
  deriving DecidableEq, Repr

end AlertRelay.Log

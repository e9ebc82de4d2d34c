import AlertRelay.Config
import AlertRelay.Json.Reader

/-!
# Configuration from environment variables

The two tables among the variables are read as JSON texts of any depth and without surrogates that
are alone, as `Json.read` takes them.

## Main definitions

* `Environment`: variables with their values.
* `Config.ofEnvironment`: the configuration that the variables describe, or the first fault in
  the order headers, placeholders, timeout, entries of headers and placeholders.
* `ConfigFault.kind`: which of the faults are reported as errors of the configuration.
* `Settings.ofEnvironment`: the settings of the process.
-/

namespace AlertRelay

open Schema

/-- Variables with their values. -/
abbrev Environment := Table String

/-- The value of a variable, or a default when it is not set. -/
def Environment.value (env : Environment) (name : String) (default : String := "") : String :=
  (env.lookup name).getD default

/-- Why variables describe no configuration. -/
inductive ConfigFault
  | malformed (name : String) (text : String) (problem : Json.Problem) (position : Nat)
  | notObject (name : String)
  | notNumber (text : String)
  | invalid (faults : List Fault)
  | longInteger (digits : Nat)
  | urlRequired
  deriving DecidableEq, Repr

/-- The message of a fault. -/
def ConfigFault.message : ConfigFault → String
  | .malformed name text problem position =>
    name ++ " is not valid JSON: " ++ (Json.Fault.malformed problem position).describe text
  | .notObject name => name ++ " must be a JSON object"
  | .notNumber text => "CUSTOM_ALERT_TIMEOUT must be a number: " ++ Text.quoted text
  | .invalid faults =>
    "invalid custom alert configuration: " ++ (DocumentFaults.mk Config.recordName faults).message
  | .longInteger digits => (Json.Fault.longInteger digits).describe ""
  | .urlRequired => "custom alert provider requires a non-empty url"

/-- How a fault is reported: as an error of the configuration, or as one of a conversion. -/
inductive ConfigFault.Kind
  | configuration
  | conversion
  deriving DecidableEq, Repr

/-- The kind of a fault. That an integer has too many digits is noticed where they are converted. -/
def ConfigFault.kind : ConfigFault → Kind
  | .longInteger _ => .conversion
  | .malformed .. | .notObject _ | .notNumber _ | .invalid _ | .urlRequired => .configuration

/-- The JSON object that a variable holds; a blank variable holds the empty one. -/
def objectVariable (name text : String) : Except ConfigFault (Table Json) :=
  if Text.strip text = "" then
    .ok []
  else
    match Json.read text with
    | .ok (.object members) => .ok members
    | .ok _ => .error (.notObject name)
    | .error (.malformed problem position) => .error (.malformed name text problem position)
    | .error (.longInteger digits) => .error (.longInteger digits)

/-- The seconds that a variable holds; a blank variable holds the default. -/
def timeoutVariable (text : String) : Except ConfigFault Number.Binary64 :=
  if Text.strip text = "" then
    .ok defaultTimeout
  else
    match Number.readFloat? (Number.plainNumeral text) with
    | some x => .ok x
    | none => .error (.notNumber text)

/-- Whether a variable holds a word for true. -/
def flagVariable (text : String) : Bool :=
  ["1", "true", "yes"].contains (Text.lower (Text.strip text))

/-- The configuration that the variables describe. -/
def Config.ofEnvironment (env : Environment) : Except ConfigFault Config := do
  let headers ← objectVariable "CUSTOM_ALERT_HEADERS" (env.value "CUSTOM_ALERT_HEADERS")
  let placeholders ←
    objectVariable "CUSTOM_ALERT_PLACEHOLDERS" (env.value "CUSTOM_ALERT_PLACEHOLDERS")
  let timeout ← timeoutVariable (env.value "CUSTOM_ALERT_TIMEOUT")
  let client : ClientOptions :=
    { timeout, insecure := flagVariable (env.value "CUSTOM_ALERT_INSECURE") }
  let document : Json :=
    .object
      [("url", .string (env.value "CUSTOM_ALERT_URL")),
       ("method", .string (env.value "CUSTOM_ALERT_METHOD")),
       ("body", .string (env.value "CUSTOM_ALERT_BODY")),
       ("headers", .object headers),
       ("placeholders", .object placeholders)]
  match Config.ofJson document with
  | .valid config => return { config with client := some client }
  | .faulty faults => .error (.invalid faults)

/-- The settings of the process. -/
structure Settings where
  alertUrl : String
  logLevel : String
  stage : String
  deriving DecidableEq, Repr

/-- The settings that the variables give; in production the URL must be set. -/
def Settings.ofEnvironment (env : Environment) : Option Settings :=
  let settings : Settings :=
    { alertUrl := env.value "CUSTOM_ALERT_URL"
      logLevel := env.value "LOG_LEVEL" "INFO"
      stage := env.value "ENV" "development" }
  if settings.stage = "production" ∧ settings.alertUrl = "" then none else some settings

/-- The message when the settings are refused. -/
def Settings.refusal : String := "CUSTOM_ALERT_URL is not set"

end AlertRelay

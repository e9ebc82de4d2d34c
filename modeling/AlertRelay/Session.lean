import AlertRelay.Sender

/-!
# Sessions

A session is one configuration that is used and changed step by step, with a client that was
given to it or with clients of its own.

## Main definitions

* `Session`: the state between two steps.
* `Session.Step`, `Session.Answer`: what a step asks for and what it answers.
* `Session.step`, `Session.run`: one step, and all steps in order.
-/

namespace AlertRelay

open Http Schema

/-- A target as a document, to be checked when it is used. -/
structure TargetDocument where
  endpoint : Json := .object [("name", .string "n")]
  alert : Json := .object []
  resolved : Bool := false

/-- The target of a document, whose endpoint is checked before its alert. -/
def TargetDocument.read (d : TargetDocument) : Except DocumentFaults Target := do
  let endpoint ← readDocument Endpoint.recordName Endpoint.ofJson d.endpoint
  let alert ← readDocument Alert.recordName Alert.ofJson d.alert
  return { endpoint, alert, resolved := d.resolved }

/-- A configuration in use: the client that was given to it, if any, and the world. -/
structure Session where
  config : Config
  client : Option Nat := none
  world : World := {}

namespace Session

/-- A change of one field of the configuration. -/
inductive Change
  | url (value : String)
  | method (value : String)
  | body (value : String)
  | headers (value : Table String)
  | placeholders (value : Remap)
  | client (document : Json)
  | defaultAlert (document : Json)

/-- What a step asks for. -/
inductive Step
  | isValid
  | withDefaults
  | defaultAlert
  | set (change : Change)
  | render (target : TargetDocument)
  | build (target : TargetDocument)
  | closeClient
  | send (target : TargetDocument) (evaluation : Json) (replies : Option (List Reply))

/-- How a send ended, what happened during it, and what holds after it. -/
structure Report where
  outcome : Except Failure Unit
  journal : Journal
  hasOptions : Bool
  clientsClosed : List Bool

/-- What a step answers. -/
inductive Answer
  | validity (valid : Bool) (client : Option ClientOptions) (replaced : Bool)
  | copy (config : Config) (present : Option ClientOptions)
  | alert (alert : Option Alert)
  | config (config : Config)
  | rendered (template : Template)
  | request (request : Request)
  | closed
  | refused (faults : DocumentFaults)
  | failed (failure : Failure)
  | sent (report : Report)

/-- A session with a configuration, and with a client if one is given. -/
def start (config : Config) (client : Option Client) : Session :=
  match client with
  | some client => { config, client := some 0, world := { clients := [client] } }
  | none => { config }

/-- The configuration after a change; options and alerts are checked. -/
def Change.apply (c : Config) : Change → Except DocumentFaults Config
  | .url value => .ok { c with url := value }
  | .method value => .ok { c with method := value }
  | .body value => .ok { c with body := value }
  | .headers value => .ok { c with headers := value }
  | .placeholders value => .ok { c with placeholders := value }
  | .client document => do
    let client ← readDocument ClientOptions.recordName (optional ClientOptions.ofJson) document
    return { c with client }
  | .defaultAlert document => do
    let defaultAlert ← readDocument Alert.recordName (optional Alert.ofJson) document
    return { c with defaultAlert }

/-- Sends an alert and reports what happened during the send. -/
def sendTarget (target : Target) (s : Session) : Report × Session :=
  let (outcome, config, world) := AlertRelay.send s.config s.client target s.world
  ({ outcome
     journal := world.journal
     hasOptions := config.client.isSome
     clientsClosed := world.clients.map (·.closed) },
    { s with config, world })

/-- The answer to a step, and the session after it. -/
def step (s : Session) : Step → Answer × Session
  | .isValid =>
    let config := s.config.withDefaults
    (.validity config.hasUrl config.client s.config.client.isNone, { s with config })
  | .withDefaults => (.copy s.config.withDefaults s.config.client, s)
  | .defaultAlert => (.alert s.config.defaultAlert, s)
  | .set change =>
    match change.apply s.config with
    | .ok config => (.config config, { s with config })
    | .error faults => (.refused faults, s)
  | .render target =>
    match target.read with
    | .ok target => (.rendered (s.config.render target), s)
    | .error faults => (.refused faults, s)
  | .build target =>
    match target.read with
    | .error faults => (.refused faults, s)
    | .ok target =>
      match s.config.request target with
      | .ok request => (.request request, s)
      | .error failure => (.failed failure, s)
  | .closeClient =>
    match s.client with
    | some id => (.closed, { s with world := s.world.closeClient id })
    | none => (.closed, s)
  | .send target evaluation replies =>
    let s := { s with world := s.world.newPage.load replies }
    match target.read, readDocument Evaluation.recordName Evaluation.ofJson evaluation with
    | .error faults, _ => (.refused faults, s)
    | .ok _, .error faults => (.refused faults, s)
    | .ok target, .ok _ =>
      let (report, s) := s.sendTarget target
      (.sent report, s)

/-- The answers to steps in order, and the session after them. -/
def run (s : Session) : List Step → List Answer × Session
  | [] => ([], s)
  | first :: rest =>
    let (answer, s) := s.step first
    let (answers, s) := s.run rest
    (answer :: answers, s)

end Session

end AlertRelay

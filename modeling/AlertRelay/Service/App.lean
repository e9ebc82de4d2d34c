import AlertRelay.Log.Console
import AlertRelay.Service.Container
import AlertRelay.Service.Payload
import AlertRelay.Service.Route

/-!
# The service

The service keeps one container installed, which its requests use. It is built from the
environment when it is first needed, unless another one was installed before.

## Main definitions

* `App`: the state of the process.
* `App.get`, `App.install`, `App.close`: the installed container.
* `App.start`, `App.stop`: the life of the service.
* `App.handle`: the answer to a request.
* `App.step`, `App.run`: steps of all kinds.
-/

namespace AlertRelay

open Http Schema Text

/-- The state of the process: the world, all containers in the order of their creation, the number
of the installed one, and the console. -/
structure App where
  world : World := {}
  containers : List Container := []
  installed : Option Nat := none
  console : Log.Console := {}
  deriving Repr

/-- The name under which the service logs. -/
def serviceLogger : String := "webhook_alert.main"

/-- The endpoint that a test alert is about. -/
def testEndpoint : Endpoint := { name := "test-endpoint", group := "debug" }

/-- The description of a test alert that is given none. -/
def testDescription : String := "This is a test alert"

/-- What an answer carries. -/
inductive Body
  | json (value : Json)
  | text (value : String)
  deriving Repr

/-- An unexpected failure within the service. -/
inductive Crash
  | config (fault : ConfigFault)
  | send (failure : Failure)
  deriving DecidableEq, Repr

/-- The answer to a request; a crash answers a status and a text that tell nothing about it. -/
structure CallAnswer where
  status : Nat
  body : Body
  crash : Option Crash := none
  deriving Repr

namespace CallAnswer

/-- An answer with a value. -/
def ofJson (status : Nat) (value : Json) : CallAnswer := { status, body := .json value }

/-- An answer that says what went wrong. -/
def detail (status : Nat) (message : String) : CallAnswer :=
  .ofJson status (.object [("detail", .string message)])

/-- The answer after a crash. -/
def crashed (crash : Crash) : CallAnswer :=
  { status := 500, body := .text "Internal Server Error", crash := some crash }

/-- The answer to a body that is refused. -/
def refusal : Refusal → CallAnswer
  | .unreadable => .detail 400 "There was an error parsing the body"
  | .faulty faults => .ofJson 422 (.object [("detail", .array (rows faults))])

end CallAnswer

/-- A request to the service. -/
structure Call where
  method : String
  path : String
  contentType : Option String := some "application/json"
  body : Octets := []
  deriving Repr

namespace App

/-- Adds a container to those of the process; its number is the second component. -/
def keep (container : Container) (app : App) : App × Nat :=
  ({ app with containers := app.containers ++ [container] }, app.containers.length)

/-- Puts a container together. -/
def assemble (config : Option Config) (client : Option Nat) (strict : Bool) (env : Environment)
    (app : App) : Except ConfigFault Nat × App :=
  match Container.assemble config client strict env app.world with
  | (.error fault, world) => (.error fault, { app with world })
  | (.ok container, world) =>
    let (app, id) := keep container { app with world }
    (.ok id, app)

/-- Logs a record. -/
def log (logger : String) (level : Log.Level) (message : String) (app : App) : App :=
  { app with world := app.world.log logger level message }

/-- The installed container; without one, the container of the environment is installed. -/
def get (env : Environment) (app : App) : Except ConfigFault Nat × App :=
  match app.installed with
  | some id => (.ok id, app)
  | none =>
    match app.assemble none none false env with
    | (.error fault, app) => (.error fault, app)
    | (.ok id, app) => (.ok id, { app with installed := some id })

/-- Installs a container. -/
def install (id : Nat) (app : App) : App :=
  log containerLogger .info "✅ Service container initialized" { app with installed := some id }

/-- Closes a container, which stays known. -/
def closeContainer (id : Nat) (app : App) : App :=
  match app.containers[id]? with
  | some container => { app with world := container.close app.world }
  | none => app

/-- Closes the installed container, if there is one, and removes it. -/
def close (app : App) : App :=
  match app.installed with
  | some id => { closeContainer id app with installed := none }
  | none => app

/-- Logs a line between two rules. -/
def announce (message : String) (app : App) : App :=
  let rule := String.ofList (List.replicate 80 '=')
  ((app.log serviceLogger .info rule).log serviceLogger .info message).log serviceLogger .info rule

/-- Sets the console up and makes sure that a container is installed. -/
def start (level : String) (env : Environment) (app : App) : Except ConfigFault Unit × App :=
  let app := { app with console := app.console.setUp level }
  match (app.announce "🚀 Starting Webhook Alert Server").get env with
  | (.error fault, app) => (.error fault, app)
  | (.ok id, app) => (.ok (), app.install id)

/-- Closes and removes the installed container. -/
def stop (app : App) : App := app.close.announce "👋 Shutting down Webhook Alert Server"

/-- The alert of a test: the default one with the description that the test gives it. -/
def testAlert (config : Config) (request : TestRequest) : Alert :=
  let given := request.description.getD ""
  { config.defaultAlert.getD {} with
    description := some (if given = "" then testDescription else given) }

/-- Sends the alert of a test through the installed container. -/
def sendTest (container : Container) (request : TestRequest) (app : App) : CallAnswer × App :=
  let target : Target :=
    { endpoint := testEndpoint
      alert := testAlert container.config request
      resolved := request.resolved }
  let (outcome, world) := container.send target app.world
  let app := { app with world }
  let badGateway (failure : Failure) : CallAnswer × App :=
    (.detail 502 ("request error: " ++ failure.message),
      app.log serviceLogger .error ("Test alert request error: " ++ failure.message))
  match outcome with
  | .ok () => (.ofJson 200 (.object [("status", .string "sent")]), app)
  | .error failure =>
    match failure with
    | .rejected .. => (.detail 502 failure.message, app)
    | .url _ | .transport _ | .location _ | .tooManyRedirects => badGateway failure
    | .notAscii _ | .host _ | .jar _ | .clientClosed => (.crashed (.send failure), app)

/-- Answers with the help of the installed container. -/
def withContainer (env : Environment) (app : App)
    (use : Container → App → CallAnswer × App) : CallAnswer × App :=
  match app.get env with
  | (.error fault, app) => (.crashed (.config fault), app)
  | (.ok id, app) =>
    match app.containers[id]? with
    | some container => use container app
    | none => (.detail 404 "Not Found", app)

/-- The state of the service. -/
def health (container : Container) (app : App) : CallAnswer × App :=
  (.ofJson 200
    (.object [("status", .string "ok"), ("provider_valid", .bool container.valid)]), app)

/-- Sends a test alert unless there is nothing to send it to. -/
def test (request : TestRequest) (container : Container) (app : App) : CallAnswer × App :=
  if container.valid then sendTest container request app
  else (.detail 503 "custom alert provider is not configured", app)

/-- The answer to a request. The body of a test is read before the container is looked at. -/
def handle (call : Call) (env : Environment) (app : App) : CallAnswer × App :=
  match Route.find call.method call.path with
  | .nowhere => (.detail 404 "Not Found", app)
  | .otherMethod => (.detail 405 "Method Not Allowed", app)
  | .otherPath => ({ status := 307, body := .text "" }, app)
  | .route .health => app.withContainer env health
  | .route .testAlert =>
    match readPayload call.contentType call.body with
    | .error refusal => (.refusal refusal, app)
    | .ok request => app.withContainer env (test request)

/-- What a container is built from: a configuration as a document, a client to give it, and whether
it is strict. -/
structure Plan where
  config : Option Json := none
  /-- Whether a client is given, and if so whether it follows redirects. -/
  client : Option Bool := none
  strict : Bool := false

/-- What a step asks for. -/
inductive Step
  | new (plan : Plan)
  | init (plan : Plan)
  | initDefault
  | get
  | close
  | closeOne (container : Nat)
  | start (level : String)
  | stop
  | request (call : Call) (replies : Option (List Reply))

/-- What a step answers. -/
inductive Answer
  | container (id : Nat) (container : Container)
  | built (id : Nat) (container : Container) (given : Option Config)
  | started (root connection : Int)
  | done
  | answered (answer : CallAnswer)
  | refused (faults : DocumentFaults)
  | failed (fault : ConfigFault)

/-- The times that a client allows when it was not made from options: five seconds each. -/
def givenTimeouts : Timeouts := .uniform (.ofInt 5)

/-- Reads the configuration of a plan. -/
def Plan.readConfig (plan : Plan) : Except DocumentFaults (Option Config) :=
  match plan.config with
  | none => .ok none
  | some document => (readDocument Config.recordName Config.ofJson document).map some

/-- Creates the client of a plan, when there is one. -/
def Plan.openClient (plan : Plan) (app : App) : Option Nat × App :=
  match plan.client with
  | none => (none, app)
  | some followRedirects =>
    let (world, id) := app.world.openClient { timeouts := givenTimeouts, followRedirects }
    (some id, { app with world })

/-- The answer about a container. -/
def describe (id : Nat) (app : App) (answer : Container → Answer) : Answer × App :=
  match app.containers[id]? with
  | some container => (answer container, app)
  | none => (.done, app)

/-- Builds the container of a plan, and installs it when asked to. -/
def build (plan : Plan) (installs : Bool) (env : Environment) (app : App) : Answer × App :=
  match plan.readConfig with
  | .error faults => (.refused faults, app)
  | .ok config =>
    let (client, app) := plan.openClient app
    match app.assemble config client plan.strict env with
    | (.error fault, app) => (.failed fault, app)
    | (.ok id, app) =>
      let app := if installs then app.install id else app
      app.describe id (.built id · config)

/-- The answer to a step, and the process after it. -/
def step (env : Environment) (app : App) (s : Step) : Answer × App :=
  let app := { app with world := app.world.newPage }
  match s with
  | .new plan => app.build plan false env
  | .init plan => app.build plan true env
  | .initDefault =>
    match app.assemble none none false env with
    | (.error fault, app) => (.failed fault, app)
    | (.ok id, app) => (app.install id).describe id (.container id)
  | .get =>
    match app.get env with
    | (.error fault, app) => (.failed fault, app)
    | (.ok id, app) => app.describe id (.container id)
  | .close => (.done, app.close)
  | .closeOne id => (.done, app.closeContainer id)
  | .start level =>
    match app.start level env with
    | (.error fault, app) => (.failed fault, app)
    | (.ok (), app) => (.started app.console.root app.console.connection, app)
  | .stop => (.done, app.stop)
  | .request call replies =>
    let (answer, app) := handle call env { app with world := app.world.load replies }
    (.answered answer, app)

/-- The answers to steps in order, each under its own variables, and the process after them. -/
def run (app : App) : List (Environment × Step) → List Answer × App
  | [] => ([], app)
  | (env, first) :: rest =>
    let (answer, app) := app.step env first
    let (answers, app) := app.run rest
    (answer :: answers, app)

end App

end AlertRelay

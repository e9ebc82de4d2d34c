/-!
# Routes

The routes of the service itself. Pages that describe its interface, under `/docs`, `/redoc` and
`/openapi.json`, are left out; requests for them are answered as for any path that is unknown.

## Main definitions

* `Route`: what the service answers.
* `Route.find`: where a method and a path lead.
-/

namespace AlertRelay

/-- What the service answers. -/
inductive Route
  | health
  | testAlert
  deriving DecidableEq, Repr

namespace Route

/-- All routes. -/
def all : List Route := [.health, .testAlert]

/-- The path of a route. -/
def path : Route → String
  | .health => "/health"
  | .testAlert => "/debug/test-alert"

/-- The only method of a route. -/
def method : Route → String
  | .health => "GET"
  | .testAlert => "POST"

/-- Where a request leads: to a route, to a path that takes another method, to a path that only
lacks its slashes at the end, or nowhere. -/
inductive Lead
  | route (route : Route)
  | otherMethod
  | otherPath
  | nowhere
  deriving DecidableEq, Repr

/-- The route of a path. -/
def ofPath? (path : String) : Option Route := all.find? fun r => r.path = path

/-- A path without the slashes at its end. -/
def withoutSlashes (path : String) : String :=
  String.ofList (path.toList.reverse.dropWhile (· = '/')).reverse

/-- Where a method and a path lead. -/
def find (method path : String) : Lead :=
  match ofPath? path with
  | some r => if r.method = method then .route r else .otherMethod
  | none => if (ofPath? (withoutSlashes path)).isSome then .otherPath else .nowhere

end Route

end AlertRelay

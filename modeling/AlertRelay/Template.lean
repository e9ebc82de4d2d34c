import AlertRelay.Config
import AlertRelay.Endpoint

/-!
# Request templates

A template is a request whose texts contain tokens. Rendering replaces the tokens one after the
other, each everywhere, so that a token within an earlier value is replaced as well.

## Main definitions

* `Token`: the five tokens, `Token.all` in the order of their replacement.
* `Template.replace`: replaces one text in all places that a template may vary.
* `stateWord`: the word for the state of an alert.
* `Template.render`: replaces all tokens.
-/

namespace AlertRelay

/-- What a template may refer to. -/
inductive Token
  | description
  | name
  | group
  | url
  | state
  deriving DecidableEq, Repr

namespace Token

/-- The name of a token. -/
def label : Token → String
  | .description => "ALERT_DESCRIPTION"
  | .name => "ENDPOINT_NAME"
  | .group => "ENDPOINT_GROUP"
  | .url => "ENDPOINT_URL"
  | .state => "ALERT_TRIGGERED_OR_RESOLVED"

/-- A token as a template spells it, its name between brackets. -/
def spelling (t : Token) : String := "[" ++ t.label ++ "]"

/-- All tokens in the order of their replacement. -/
def all : List Token := [.description, .name, .group, .url, .state]

end Token

/-- The texts of a request, with tokens or without. -/
structure Template where
  url : String
  method : String := ""
  body : String := ""
  headers : Table String := []
  deriving DecidableEq, Repr, Inhabited

/-- What an alert is about: the endpoint, the alert, and whether it is over. -/
structure Target where
  endpoint : Endpoint
  alert : Alert
  resolved : Bool
  deriving DecidableEq, Repr

/-- The standard word for a state. -/
def standardWord (resolved : Bool) : String := if resolved then "RESOLVED" else "TRIGGERED"

/-- The word for a state: the one that replaces the standard word, if there is one. -/
def stateWord (placeholders : Remap) (resolved : Bool) : String :=
  let word := standardWord resolved
  (((placeholders.lookup Token.state.label).getD []).lookup word).getD word

/-- What a token stands for. -/
def Token.value (placeholders : Remap) (target : Target) : Token → String
  | .description => target.alert.descriptionText
  | .name => target.endpoint.name
  | .group => target.endpoint.group
  | .url => target.endpoint.url
  | .state => stateWord placeholders target.resolved

namespace Template

/-- Replaces a text in the body, the URL and the values of the headers. -/
def replace (old new : String) (t : Template) : Template :=
  { t with
    url := Text.replace old new t.url
    body := Text.replace old new t.body
    headers := t.headers.mapValues (Text.replace old new) }

/-- Replaces all tokens, one after the other. -/
def render (placeholders : Remap) (target : Target) (t : Template) : Template :=
  Token.all.foldl (fun t token => t.replace token.spelling (token.value placeholders target)) t

end Template

/-- The template of a configuration. -/
def Config.template (c : Config) : Template :=
  { url := c.url, method := c.method, body := c.body, headers := c.headers }

/-- The texts of the request about a target. -/
def Config.render (c : Config) (target : Target) : Template :=
  c.template.render c.placeholders target

end AlertRelay

import AlertRelay.Alert

/-!
# Configuration of the relay

## Main definitions

* `ClientOptions`: how connections are made.
* `Config`: the request template, the words for the states, and the defaults.
* `Config.withDefaults`: the same configuration with its client options filled in.
-/

namespace AlertRelay

open Schema

/-- The seconds that a request may take unless configured otherwise. -/
def defaultTimeout : Number.Binary64 := .ofInt 10

/-- How connections are made. -/
structure ClientOptions where
  timeout : Number.Binary64 := defaultTimeout
  insecure : Bool := false
  followRedirects : Bool := false
  deriving DecidableEq, Repr, Inhabited

namespace ClientOptions

/-- The name that messages give to this record. -/
def recordName : String := "ClientConfig"

/-- Reads client options. -/
def ofJson : Reader ClientOptions :=
  record fun m =>
    ClientOptions.mk
      <$> field ["timeout"] number defaultTimeout m
      <*> field ["insecure"] flag false m
      <*> field ["follow_redirects"] flag false m

/-- The fields of client options. -/
def toJson (o : ClientOptions) : Json :=
  .object
    [("timeout", .float o.timeout),
     ("insecure", .bool o.insecure),
     ("follow_redirects", .bool o.followRedirects)]

end ClientOptions

/-- Words that replace others, by the name of the placeholder that they are for. -/
abbrev Remap := Table (Table String)

/-- The configuration of the relay. -/
structure Config where
  url : String := ""
  method : String := ""
  body : String := ""
  headers : Table String := []
  placeholders : Remap := []
  client : Option ClientOptions := none
  defaultAlert : Option Alert := none
  deriving DecidableEq, Repr, Inhabited

namespace Config

/-- The name that messages give to this record. -/
def recordName : String := "CustomAlertConfig"

/-- Reads a configuration. The default alert has a spelling with a hyphen, which is preferred. -/
def ofJson : Reader Config :=
  record fun m =>
    Config.mk
      <$> field ["url"] text "" m
      <*> field ["method"] text "" m
      <*> field ["body"] text "" m
      <*> field ["headers"] (tableOf text) [] m
      <*> field ["placeholders"] (tableOf (tableOf text)) [] m
      <*> field ["client"] (optional ClientOptions.ofJson) none m
      <*> field ["default-alert", "default_alert"] (optional Alert.ofJson) none m

/-- The fields of a configuration. -/
def toJson (c : Config) : Json :=
  .object
    [("url", .string c.url),
     ("method", .string c.method),
     ("body", .string c.body),
     ("headers", .object (c.headers.mapValues .string)),
     ("placeholders", .object (c.placeholders.mapValues fun t => .object (t.mapValues .string))),
     ("client", .ofOption ClientOptions.toJson c.client),
     ("default_alert", .ofOption Alert.toJson c.defaultAlert)]

/-- The same configuration, with the default client options where it has none. -/
def withDefaults (c : Config) : Config := { c with client := some (c.client.getD {}) }

/-- Whether there is a URL to send to. -/
def hasUrl (c : Config) : Bool := c.url ≠ ""

end Config

end AlertRelay

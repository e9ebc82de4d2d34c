import AlertRelay.Schema.Scalar

/-!
# Alerts

## Main definitions

* `Alert`: what is configured about an alert and whether it is triggered.
* `Alert.ofJson`, `Alert.toJson`: reading an alert from a document and writing it.
-/

namespace AlertRelay

open Schema

/-- The ways of delivering an alert; the only one is a request made from a template. -/
inductive AlertKind
  | custom
  deriving DecidableEq, Repr, Inhabited

/-- The word for a kind. -/
def AlertKind.word : AlertKind → String
  | .custom => "custom"

/-- Reads a kind by its word. -/
def AlertKind.ofJson : Reader AlertKind
  | .string s => if s = AlertKind.word .custom then .valid .custom else .fail .notChoice
  | _ => .fail .notChoice

/-- The configuration of an alert and its state: it is triggered after `failureThreshold` failures
in a row and resolved after `successThreshold` successes in a row. -/
structure Alert where
  kind : AlertKind := .custom
  enabled : Bool := true
  failureThreshold : Int := 3
  successThreshold : Int := 2
  description : Option String := none
  sendOnResolved : Bool := false
  triggered : Bool := false
  deriving DecidableEq, Repr, Inhabited

namespace Alert

/-- The description that a template receives; an alert without one has the empty text. -/
def descriptionText (a : Alert) : String := a.description.getD ""

/-- The name that messages give to this record. -/
def recordName : String := "Alert"

/-- Reads an alert. Three fields have a spelling with hyphens, which is preferred. -/
def ofJson : Reader Alert :=
  record fun m =>
    Alert.mk
      <$> field ["type"] AlertKind.ofJson .custom m
      <*> field ["enabled"] flag true m
      <*> field ["failure-threshold", "failure_threshold"] integer 3 m
      <*> field ["success-threshold", "success_threshold"] integer 2 m
      <*> field ["description"] (optional text) none m
      <*> field ["send-on-resolved", "send_on_resolved"] flag false m
      <*> field ["triggered"] flag false m

/-- The fields of an alert. -/
def toJson (a : Alert) : Json :=
  .object
    [("type", .string a.kind.word),
     ("enabled", .bool a.enabled),
     ("failure_threshold", .int a.failureThreshold),
     ("success_threshold", .int a.successThreshold),
     ("description", .ofOption .string a.description),
     ("send_on_resolved", .bool a.sendOnResolved),
     ("triggered", .bool a.triggered)]

end Alert

end AlertRelay

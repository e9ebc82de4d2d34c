import AlertRelay.Schema.Scalar
import AlertRelay.Text.Replace

/-!
# Endpoints

## Main definitions

* `Endpoint`: what is monitored, and `Endpoint.key`, the text that identifies it in a log.
* `Evaluation`: what an evaluation of an endpoint found.
-/

namespace AlertRelay

open Schema

/-- Something that is monitored, the target of an alert. -/
structure Endpoint where
  name : String
  group : String := ""
  url : String := ""
  deriving DecidableEq, Repr, Inhabited

namespace Endpoint

/-- The texts that a key shows as a hyphen. -/
def keySeparators : List String := [" ", "/", "_", ",", ".", "#"]

/-- One part of a key: in lower case, with hyphens for separators. -/
def keyPart (s : String) : String :=
  keySeparators.foldl (fun part separator => Text.replace separator "-" part) (Text.lower s)

/-- The group and the name, joined by the only underscore. -/
def key (e : Endpoint) : String := keyPart e.group ++ "_" ++ keyPart e.name

/-- The name that messages give to this record. -/
def recordName : String := "Endpoint"

/-- Reads an endpoint, which must have a name. -/
def ofJson : Reader Endpoint :=
  record fun m =>
    Endpoint.mk
      <$> required "name" text m
      <*> field ["group"] text "" m
      <*> field ["url"] text "" m

/-- The fields of an endpoint. -/
def toJson (e : Endpoint) : Json :=
  .object [("name", .string e.name), ("group", .string e.group), ("url", .string e.url)]

end Endpoint

/-- A condition and whether it held. -/
structure ConditionResult where
  condition : String
  success : Bool
  deriving DecidableEq, Repr, Inhabited

namespace ConditionResult

/-- The name that messages give to this record. -/
def recordName : String := "ConditionResult"

/-- Reads the result of a condition; both fields must be given. -/
def ofJson : Reader ConditionResult :=
  record fun m => ConditionResult.mk <$> required "condition" text m <*> required "success" flag m

/-- The fields of the result of a condition. -/
def toJson (r : ConditionResult) : Json :=
  .object [("condition", .string r.condition), ("success", .bool r.success)]

end ConditionResult

/-- What an evaluation of an endpoint found. -/
structure Evaluation where
  success : Bool := false
  conditions : List ConditionResult := []
  errors : List String := []
  deriving DecidableEq, Repr, Inhabited

namespace Evaluation

/-- The name that messages give to this record. -/
def recordName : String := "Result"

/-- Reads an evaluation. -/
def ofJson : Reader Evaluation :=
  record fun m =>
    Evaluation.mk
      <$> field ["success"] flag false m
      <*> field ["condition_results"] (listOf ConditionResult.ofJson) [] m
      <*> field ["errors"] (listOf text) [] m

/-- The fields of an evaluation. -/
def toJson (e : Evaluation) : Json :=
  .object
    [("success", .bool e.success),
     ("condition_results", .array (e.conditions.map ConditionResult.toJson)),
     ("errors", .array (e.errors.map .string))]

end Evaluation

end AlertRelay

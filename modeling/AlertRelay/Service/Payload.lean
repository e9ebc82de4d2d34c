import AlertRelay.Json.Reader
import AlertRelay.Schema.Scalar
import AlertRelay.Text.Encoding

/-!
# The body of a test request

A description in which a surrogate is alone is read with the replacement character in its place,
which can be sent where the original cannot be written in UTF-8.

## Main definitions

* `TestRequest`: what a test of the alert asks for.
* `readPayload`: the test request that a body holds, or why it is refused.
-/

namespace AlertRelay

open Schema Text

/-- A request to send a test alert. -/
structure TestRequest where
  resolved : Bool := false
  description : Option String := none
  deriving DecidableEq, Repr, Inhabited

namespace TestRequest

/-- The name that messages give to this record. -/
def recordName : String := "AlertTestRequest"

/-- Reads the members of a test request. -/
def ofMembers (m : Table Json) : Checked TestRequest :=
  TestRequest.mk
    <$> field ["resolved"] flag false m
    <*> field ["description"] (optional text) none m

/-- Reads a test request. -/
def ofJson : Reader TestRequest := record ofMembers

/-- The fields of a test request. -/
def toJson (t : TestRequest) : Json :=
  .object [("resolved", .bool t.resolved), ("description", .ofOption .string t.description)]

end TestRequest

/-- Why the body of a request is refused. -/
inductive Refusal
  /-- It is no text, or holds a number that cannot be converted. -/
  | unreadable
  /-- It is no test request. -/
  | faulty (faults : List Fault)
  deriving DecidableEq, Repr

/-- Whether a content type announces JSON; what stands after a semicolon is left aside. -/
def isJsonType (contentType : String) : Bool :=
  let plain := trimBy isBlank (contentType.toList.takeWhile (· ≠ ';'))
  match (lower (String.ofList plain)).toList.splitOn '/' with
  | [main, sub] =>
    main = "application".toList && (sub = "json".toList || "+json".toList.isSuffixOf sub)
  | _ => false

/-- A fault of the body as a whole. -/
def bodyFault (cause : Cause) : Refusal := .faulty [⟨[.key "body"], cause⟩]

/-- The test request that the text of a body holds. -/
def readPayloadText (body : String) : Except Refusal TestRequest :=
  match Json.read body with
  | .error (.longInteger _) => .error .unreadable
  | .error (.malformed _ position) =>
    .error (.faulty [⟨[.key "body", .index position], .malformed⟩])
  | .ok (.object members) =>
    match (TestRequest.ofMembers members).within (.key "body") with
    | .valid request => .ok request
    | .faulty faults => .error (.faulty faults)
  | .ok _ => .error (bodyFault .notPayload)

/-- The test request that a body holds. -/
def readPayload (contentType : Option String) (body : Octets) : Except Refusal TestRequest :=
  if body = [] then .error (bodyFault .missing)
  else if contentType.any isJsonType then
    match decodeDocument? body with
    | some text => readPayloadText text
    | none => .error .unreadable
  else .error (bodyFault .notPayload)

end AlertRelay

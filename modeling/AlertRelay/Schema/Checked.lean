import AlertRelay.Json.Writer

/-!
# Checked documents

Reading a document into a record either gives the record or all faults of the document, each
with its place.

## Main definitions

* `Cause`, `Fault`: what is wrong with a document, and where.
* `Checked`: a result or its faults; combining two results keeps the faults of both.
* `field`, `required`, `record`, `tableOf`, `listOf`: readers of compound documents.
* `rows`: the faults as JSON, in the order of their texts.
* `readDocument`: a record read from a document, or the faults with the name of the record.
-/

namespace AlertRelay.Schema

/-- What is wrong with a value. -/
inductive Cause
  | missing
  | notRecord
  | notPayload
  | malformed
  | notText
  | notFlag
  | unreadableFlag
  | notInteger
  | unreadableInteger
  | overlongInteger
  | fractional
  | notFinite
  | notNumber
  | unreadableNumber
  | notList
  | notTable
  | notChoice
  deriving DecidableEq, Repr

/-- The word for a cause. -/
def Cause.word : Cause → String
  | .missing => "missing"
  | .notRecord => "model_type"
  | .notPayload => "model_attributes_type"
  | .malformed => "json_invalid"
  | .notText => "string_type"
  | .notFlag => "bool_type"
  | .unreadableFlag => "bool_parsing"
  | .notInteger => "int_type"
  | .unreadableInteger => "int_parsing"
  | .overlongInteger => "int_parsing_size"
  | .fractional => "int_from_float"
  | .notFinite => "finite_number"
  | .notNumber => "float_type"
  | .unreadableNumber => "float_parsing"
  | .notList => "list_type"
  | .notTable => "dict_type"
  | .notChoice => "enum"

/-- One step into a document: to the member of a key or to the item of a position. -/
inductive Step
  | key (name : String)
  | index (position : Nat)
  deriving DecidableEq, Repr

/-- Something wrong at a place of a document, given by the steps that lead there. -/
structure Fault where
  place : List Step
  cause : Cause
  deriving DecidableEq, Repr

/-- The fault seen from one step further out. -/
def Fault.within (step : Step) (f : Fault) : Fault := { f with place := step :: f.place }

/-- What was read from a document, or everything that is wrong with it. -/
inductive Checked (α : Type)
  | valid (value : α)
  | faulty (faults : List Fault)
  deriving DecidableEq, Repr

namespace Checked

variable {α β : Type}

/-- A single fault at the document itself. -/
def fail (cause : Cause) : Checked α := .faulty [⟨[], cause⟩]

/-- Changes the value. -/
def map (f : α → β) : Checked α → Checked β
  | .valid a => .valid (f a)
  | .faulty faults => .faulty faults

/-- Applies a checked function to a checked argument, with the faults of both. -/
def ap : Checked (α → β) → Checked α → Checked β
  | .valid f, .valid a => .valid (f a)
  | .valid _, .faulty faults => .faulty faults
  | .faulty faults, .valid _ => .faulty faults
  | .faulty faults, .faulty more => .faulty (faults ++ more)

/-- The result seen from one step further out. -/
def within (step : Step) : Checked α → Checked α
  | .valid a => .valid a
  | .faulty faults => .faulty (faults.map (·.within step))

instance : Applicative Checked where
  pure := .valid
  map := map
  seq f a := ap f (a ())

end Checked

/-- Reads a document. -/
abbrev Reader (α : Type) := Json → Checked α

variable {α : Type}

/-- Reads each part of a compound document, keeping all results or all faults. -/
def collect {ι : Type} (step : ι → Step) (read : ι → Checked α) : List ι → Checked (List α)
  | [] => .valid []
  | part :: rest =>
    (((read part).within (step part)).map List.cons).ap (collect step read rest)

/-- Reads every item of a list. -/
def listOf (read : Reader α) : Reader (List α)
  | .array items => collect (fun p => .index p.2) (fun p => read p.1) items.zipIdx
  | _ => .fail .notList

/-- Reads every value of an object into a table. -/
def tableOf (read : Reader α) : Reader (Table α)
  | .object members =>
    collect (fun m => .key m.1) (fun m => (read m.2).map fun a => (m.1, a)) members
  | _ => .fail .notTable

/-- Reads `null` as none. -/
def optional (read : Reader α) : Reader (Option α)
  | .null => .valid none
  | document => (read document).map some

/-- Reads the member under the first of several spellings that the members have. -/
def member? (spellings : List String) (read : Reader α) (members : Table Json) :
    Option (Checked α) :=
  spellings.findSome? fun spelling =>
    (members.lookup spelling).map fun document => (read document).within (.key spelling)

/-- Reads a member that may be left out. -/
def field (spellings : List String) (read : Reader α) (absent : α) (members : Table Json) :
    Checked α :=
  (member? spellings read members).getD (.valid absent)

/-- Reads a member that must not be left out. -/
def required (name : String) (read : Reader α) (members : Table Json) : Checked α :=
  (member? [name] read members).getD (.faulty [⟨[.key name], .missing⟩])

/-- Reads an object by its members. -/
def record (read : Table Json → Checked α) : Reader α
  | .object members => read members
  | _ => .fail .notRecord

/-- A step as JSON. -/
def Step.toJson : Step → Json
  | .key name => .string name
  | .index position => .int position

/-- A fault as JSON. -/
def Fault.toJson (f : Fault) : Json :=
  .object [("loc", .array (f.place.map Step.toJson)), ("type", .string f.cause.word)]

/-- The faults as JSON, in the order of their texts. -/
def rows (faults : List Fault) : List Json :=
  let lines := faults.map fun f => (f.toJson.write .ascii, f.toJson)
  (lines.mergeSort fun a b => decide (a.1 ≤ b.1)).map (·.2)

/-- The faults of a document that was read as the record of a name. -/
structure DocumentFaults where
  recordName : String
  faults : List Fault
  deriving DecidableEq, Repr

/-- How many faults a document has, and as what it was read. -/
def DocumentFaults.message (d : DocumentFaults) : String :=
  let noun := if d.faults.length = 1 then "error" else "errors"
  s!"{d.faults.length} validation {noun} for {d.recordName}"

/-- Reads a document as the record of a name. -/
def readDocument (recordName : String) (read : Reader α) (document : Json) :
    Except DocumentFaults α :=
  match read document with
  | .valid value => .ok value
  | .faulty faults => .error ⟨recordName, faults⟩

end AlertRelay.Schema

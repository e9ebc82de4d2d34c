import AlertRelay.Config
import AlertRelay.Endpoint
import AlertRelay.Proofs.Schema.Checked
import AlertRelay.Service.Payload

/-!
# Records Read Back

A document may spell a value in more than one way: a flag as a word, an integer as a text, a field
under either of its keys or not at all. A record is written in one way only, under the plain name
of each field and with each value in its own kind. A reader **restores** records if it reads each
from what is written for it. Reading and writing is then a projection of the accepted documents:
what is written for the record of a document is accepted, as the same record, and written as it is.

Scalars are restored because each reader takes its own kind of value as it is, and this is carried
through `null`, lists and tables to the members of records. Under two spellings of a field, the
written one is found because the other one is not among the keys of what is written.

## Main results

* `Schema.Restores.written_fixed`: what is written is a fixed point.
* `Schema.Restores.listOf`, `Schema.Restores.tableOf`, `Schema.Restores.optional`: compound values.
* `ofJson_toJson`: **every record is restored**.
-/

namespace AlertRelay

namespace Schema

variable {α β : Type} {read : Reader α} {write : α → Json}

/-- The reader reads each value from what is written for it. -/
def Restores (read : Reader α) (write : α → Json) : Prop := ∀ a, read (write a) = .valid a

/-- What is written for an accepted document is written as it is. -/
theorem Restores.written_fixed (h : Restores read write) {document written : Json}
    (hwritten : (read document).map write = .valid written) :
    (read written).map write = .valid written := by
  obtain ⟨a, -, rfl⟩ := Checked.map_eq_valid_iff.mp hwritten
  rw [h a, Checked.map]

/-! ### Values -/

/-- A reader that accepts what is written, and nothing else, restores it. -/
theorem Forms.restores (h : Forms read write) : Restores read write := fun a => (h _ a).mpr rfl

/-- Texts are restored. -/
theorem restores_text : Restores text .string := forms_text.restores

/-- Flags are restored. -/
theorem restores_flag : Restores flag .bool := fun _ => rfl

/-- Integers of any size are restored. -/
theorem restores_integer : Restores integer .int := fun _ => rfl

/-- Numbers are restored, the infinite ones and those that are none included. -/
theorem restores_number : Restores number .float := fun _ => rfl

/-- A value that is never written as `null` may be left open. -/
theorem Restores.optional (h : Restores read write) (hnull : ∀ a, write a ≠ .null) :
    Restores (optional read) (.ofOption write) := by
  intro value
  cases value with
  | none => rfl
  | some a =>
      have hread : Schema.optional read (write a) = (read (write a)).map some := by
        generalize hdocument : write a = document
        cases document with
        | null => exact absurd hdocument (hnull a)
        | _ => rfl
      rw [Json.ofOption, hread, h a, Checked.map]

/-- A list is restored if its items are. -/
theorem Restores.listOf (h : Restores read write) :
    Restores (listOf read) fun items => .array (items.map write) := by
  intro items
  -- The positions of the items only tell where a fault would be.
  have hcollect : ∀ start,
      collect (fun p : Json × Nat => .index p.2) (fun p => read p.1)
        ((items.map write).zipIdx start) = .valid items := by
    induction items with
    | nil => exact fun _ => rfl
    | cons item items ih =>
        intro start
        rw [List.map_cons, List.zipIdx_cons, collect, h item, ih (start + 1)]
        rfl
  exact hcollect 0

/-- A table is restored if its entries are. -/
theorem Restores.tableOf (h : Restores read write) :
    Restores (tableOf read) fun table => .object (table.mapValues write) := by
  intro table
  rw [Schema.tableOf]
  induction table with
  | nil => rfl
  | cons entry table ih =>
      rw [Table.mapValues, List.map_cons, collect, h entry.2, ← Table.mapValues, ih]
      rfl

/-! ### Members of records -/

/-- A field has the value of the first member that is found under its spellings. -/
theorem member?_of_findSome? {spellings : List String} {members : Table Json} {document : Json}
    {a : α} (hmember : spellings.findSome? (members.lookup ·) = some document)
    (hread : read document = .valid a) : member? spellings read members = some (.valid a) := by
  obtain ⟨before, key, after, rfl, hkey, hbefore⟩ := List.findSome?_eq_some_iff.mp hmember
  refine List.findSome?_eq_some_iff.mpr ⟨before, key, after, rfl, ?_, fun spelling hspelling => ?_⟩
  · rw [hkey, Option.map_some, hread]
    rfl
  · rw [hbefore spelling hspelling, Option.map_none]

/-- A field is restored whichever of its spellings it is written under. -/
theorem Restores.field (h : Restores read write) {spellings : List String} {members : Table Json}
    {a : α} (hmember : spellings.findSome? (members.lookup ·) = some (write a)) (absent : α) :
    field spellings read absent members = .valid a := by
  rw [Schema.field, member?_of_findSome? hmember (h a), Option.getD_some]

/-- A required field is restored if it is written. -/
theorem Restores.required (h : Restores read write) {name : String} {members : Table Json} {a : α}
    (hmember : members.lookup name = some (write a)) : required name read members = .valid a := by
  have hfound : [name].findSome? (members.lookup ·) = some (write a) := by
    rw [List.findSome?_cons, hmember]
  rw [Schema.required, member?_of_findSome? hfound (h a), Option.getD_some]

namespace Checked

/-- A function is applied to a result that is accepted. -/
theorem map_of_valid (f : α → β) {x : Checked α} {a : α} (h : x = .valid a) :
    f <$> x = .valid (f a) := by
  rw [h]
  rfl

/-- A function that is accepted is applied to a result that is. -/
theorem seq_of_valid {f : Checked (α → β)} {g : α → β} {x : Checked α} {a : α} (hf : f = .valid g)
    (hx : x = .valid a) : f <*> x = .valid (g a) := by
  rw [hf, hx]
  rfl

end Checked

end Schema

open Schema Schema.Checked

/-! ### Records -/

/-- The kind of an alert is restored from its word. -/
theorem AlertKind.restores : Restores AlertKind.ofJson fun kind => .string kind.word := by
  rintro ⟨⟩
  rfl

/-- Alerts are restored. -/
theorem Alert.restores : Restores Alert.ofJson Alert.toJson := by
  intro a
  have hdescription := restores_text.optional (fun _ => nofun)
  refine seq_of_valid (seq_of_valid (seq_of_valid (seq_of_valid (seq_of_valid (seq_of_valid
    (map_of_valid Alert.mk ?kind) ?enabled) ?failure) ?success) ?description) ?send) ?triggered
  case kind => exact AlertKind.restores.field rfl _
  case enabled => exact restores_flag.field rfl _
  case failure => exact restores_integer.field rfl _
  case success => exact restores_integer.field rfl _
  case description => exact hdescription.field rfl _
  case send => exact restores_flag.field rfl _
  case triggered => exact restores_flag.field rfl _

/-- Endpoints are restored. -/
theorem Endpoint.restores : Restores Endpoint.ofJson Endpoint.toJson := by
  intro e
  refine seq_of_valid (seq_of_valid (map_of_valid Endpoint.mk ?name) ?group) ?url
  case name => exact restores_text.required rfl
  case group => exact restores_text.field rfl _
  case url => exact restores_text.field rfl _

/-- Results of conditions are restored. -/
theorem ConditionResult.restores : Restores ConditionResult.ofJson ConditionResult.toJson := by
  intro r
  refine seq_of_valid (map_of_valid ConditionResult.mk ?condition) ?success
  case condition => exact restores_text.required rfl
  case success => exact restores_flag.required rfl

/-- Evaluations are restored. -/
theorem Evaluation.restores : Restores Evaluation.ofJson Evaluation.toJson := by
  intro e
  refine seq_of_valid (seq_of_valid (map_of_valid Evaluation.mk ?success) ?conditions) ?errors
  case success => exact restores_flag.field rfl _
  case conditions => exact ConditionResult.restores.listOf.field rfl _
  case errors => exact restores_text.listOf.field rfl _

/-- Client options are restored. -/
theorem ClientOptions.restores : Restores ClientOptions.ofJson ClientOptions.toJson := by
  intro o
  refine seq_of_valid (seq_of_valid (map_of_valid ClientOptions.mk ?timeout) ?insecure) ?follow
  case timeout => exact restores_number.field rfl _
  case insecure => exact restores_flag.field rfl _
  case follow => exact restores_flag.field rfl _

/-- Configurations are restored, with the records within them. -/
theorem Config.restores : Restores Config.ofJson Config.toJson := by
  intro c
  have hclient := ClientOptions.restores.optional (fun _ => nofun)
  have halert := Alert.restores.optional (fun _ => nofun)
  refine seq_of_valid (seq_of_valid (seq_of_valid (seq_of_valid (seq_of_valid (seq_of_valid
    (map_of_valid Config.mk ?url) ?method) ?body) ?headers) ?placeholders) ?client) ?alert
  case url => exact restores_text.field rfl _
  case method => exact restores_text.field rfl _
  case body => exact restores_text.field rfl _
  case headers => exact restores_text.tableOf.field rfl _
  case placeholders => exact restores_text.tableOf.tableOf.field rfl _
  case client => exact hclient.field rfl _
  case alert => exact halert.field rfl _

/-- Test requests are restored. -/
theorem TestRequest.restores : Restores TestRequest.ofJson TestRequest.toJson := by
  intro t
  have hdescription := restores_text.optional (fun _ => nofun)
  refine seq_of_valid (map_of_valid TestRequest.mk ?resolved) ?description
  case resolved => exact restores_flag.field rfl _
  case description => exact hdescription.field rfl _

/-- **Every record is restored**: what is written for a record is accepted, and read as the same
record. It does not matter from which document the record came, or whether it came from one. -/
theorem ofJson_toJson :
    (∀ a : Alert, Alert.ofJson a.toJson = .valid a) ∧
      (∀ e : Endpoint, Endpoint.ofJson e.toJson = .valid e) ∧
      (∀ r : ConditionResult, ConditionResult.ofJson r.toJson = .valid r) ∧
      (∀ e : Evaluation, Evaluation.ofJson e.toJson = .valid e) ∧
      (∀ o : ClientOptions, ClientOptions.ofJson o.toJson = .valid o) ∧
      (∀ c : Config, Config.ofJson c.toJson = .valid c) ∧
      (∀ t : TestRequest, TestRequest.ofJson t.toJson = .valid t) :=
  ⟨Alert.restores, Endpoint.restores, ConditionResult.restores, Evaluation.restores,
    ClientOptions.restores, Config.restores, TestRequest.restores⟩

/-- A flag in words, an integer with a fraction, a key with a hyphen and a key without use: the
document is read as an alert, which is written in another way and read back. -/
example :
    let document : Json :=
      .object [("failure-threshold", .string "4.0"), ("enabled", .string "Off"), ("x", .null)]
    let alert : Alert := { enabled := false, failureThreshold := 4 }
    Alert.ofJson document = .valid alert ∧ Alert.ofJson alert.toJson = .valid alert := by
  decide +kernel

end AlertRelay

import AlertRelay.Config
import Mathlib.Tactic.Common

/-!
# Spellings of Fields

A record knows each of its fields by one or more **spellings**, and reads the member that a
document has under the first of them. Where no field has members under two spellings, it does not
matter which of them a document uses. A **respelling** renames keys within their fields; a document
that is respelled, with members added that no field knows, is read as the same record, or with the
same faults, at places whose keys are renamed alike.

The member of a field is then the only one whose key is any spelling of the field, and this is
found by its field alone: renaming does not change the field of a key, and an added member has
none. Records within records are respelled on their own, so that a place follows the renaming of
its record at each depth.

## Main results

* `Schema.field_respelled`: the member of a field in a respelled object.
* `ofJson_respelled`: **both spellings of a key are interchangeable**, and other keys do not count.
-/

namespace AlertRelay

namespace Schema

variable {α β : Type}

/-! ### Places -/

/-- The fault at another place. -/
def Fault.relocate (place : List Step → List Step) (f : Fault) : Fault :=
  { f with place := place f.place }

/-- The same result, with all faults at other places. -/
def Checked.relocate (place : List Step → List Step) : Checked α → Checked α
  | .valid a => .valid a
  | .faulty faults => .faulty (faults.map (·.relocate place))

/-- The place in a respelled object: its first key is renamed, and the steps behind it change as
the value under that key does. -/
def respellPlace (rename : String → String) (inner : String → List Step → List Step) :
    List Step → List Step
  | .key name :: rest => .key (rename name) :: inner name rest
  | place => place

/-- Where no key is renamed, all places stay. -/
theorem respellPlace_id : respellPlace id (fun _ => id) = id := by
  funext place
  rcases place with _ | ⟨step, rest⟩
  · rfl
  · cases step <;> rfl

namespace Checked

variable {place : List Step → List Step}

/-- Where all places stay, a result stays. -/
theorem relocate_id (x : Checked α) : x.relocate id = x := by
  cases x with
  | valid => rfl
  | faulty faults => exact congrArg faulty (List.map_id faults)

/-- Faults can be moved before or after a function is applied. -/
theorem relocate_map (f : α → β) (x : Checked α) :
    (f <$> x).relocate place = f <$> x.relocate place := by
  cases x <;> rfl

/-- Faults of two results can be moved before or after these are combined. -/
theorem relocate_seq (f : Checked (α → β)) (x : Checked α) :
    (f <*> x).relocate place = f.relocate place <*> x.relocate place := by
  cases f with
  | valid => cases x <;> rfl
  | faulty =>
      cases x with
      | valid => rfl
      | faulty => exact congrArg faulty List.map_append

/-- A fault of the whole is not moved. -/
theorem relocate_fail (cause : Cause) (h : place [] = []) :
    (fail cause : Checked α).relocate place = fail cause := by
  simp only [fail, relocate, List.map_cons, List.map_nil, Fault.relocate, h]

/-- Within a member that is renamed, faults are moved as the value of the member is. -/
theorem within_relocate (rename : String → String) (inner : String → List Step → List Step)
    (name : String) (x : Checked α) :
    (x.relocate (inner name)).within (.key (rename name)) =
      (x.within (.key name)).relocate (respellPlace rename inner) := by
  cases x with
  | valid => rfl
  | faulty faults =>
      simp only [relocate, within, List.map_map]
      rfl

end Checked

/-! ### Fields and their keys -/

/-- The fields of a record, each by its spellings. -/
abbrev Fields := List (List String)

namespace Fields

/-- A key that is no spelling of any field. -/
def Unknown (fields : Fields) (key : String) : Prop := ∀ spellings ∈ fields, key ∉ spellings

instance (fields : Fields) (key : String) : Decidable (fields.Unknown key) :=
  inferInstanceAs (Decidable (∀ spellings ∈ fields, key ∉ spellings))

/-- No key is a spelling of two fields. -/
def Distinct (fields : Fields) : Prop :=
  ∀ spellings ∈ fields, ∀ others ∈ fields, ∀ key ∈ spellings, key ∈ others → spellings = others

instance (fields : Fields) : Decidable fields.Distinct :=
  inferInstanceAs (Decidable (∀ spellings ∈ fields, ∀ others ∈ fields, ∀ key ∈ spellings,
    key ∈ others → spellings = others))

/-- A renaming of keys that leaves a key as it is or takes another spelling of its field. -/
def Respells (fields : Fields) (rename : String → String) : Prop :=
  ∀ key, rename key = key ∨ ∃ spellings ∈ fields, key ∈ spellings ∧ rename key ∈ spellings

/-- An object that has no field under two spellings. -/
def SpelledOnce (fields : Fields) (members : Table Json) : Prop :=
  ∀ spellings ∈ fields, ∀ m ∈ members, ∀ m' ∈ members,
    m.1 ∈ spellings → m'.1 ∈ spellings → m.1 = m'.1

instance (fields : Fields) (members : Table Json) : Decidable (fields.SpelledOnce members) :=
  inferInstanceAs (Decidable (∀ spellings ∈ fields, ∀ m ∈ members, ∀ m' ∈ members,
    m.1 ∈ spellings → m'.1 ∈ spellings → m.1 = m'.1))

/-- Members of an object, and those of a respelled one: every member stays in its place, under its
renamed key and with a value that corresponds to it, and members with unknown keys are added. -/
inductive RespelledMembers (fields : Fields) (rename : String → String)
    (value : String → Json → Json → Prop) : Table Json → Table Json → Prop
  | nil : RespelledMembers fields rename value [] []
  | kept {key : String} {document document' : Json} {members members' : Table Json} :
      value key document document' → RespelledMembers fields rename value members members' →
      RespelledMembers fields rename value ((key, document) :: members)
        ((rename key, document') :: members')
  | added {key : String} {document : Json} {members members' : Table Json} :
      fields.Unknown key → RespelledMembers fields rename value members members' →
      RespelledMembers fields rename value members ((key, document) :: members')

/-- A document, and one that is respelled if it is an object. -/
inductive Respelled (fields : Fields) (rename : String → String)
    (value : String → Json → Json → Prop) : Json → Json → Prop
  | object {members members' : Table Json} :
      fields.SpelledOnce members → RespelledMembers fields rename value members members' →
      Respelled fields rename value (.object members) (.object members')
  | other {document : Json} :
      (∀ members, document ≠ .object members) → Respelled fields rename value document document

variable {fields : Fields} {rename : String → String} {value : String → Json → Json → Prop}

/-- A respelling keeps the field of a key. -/
theorem Respells.mem_iff (h : fields.Respells rename) (hdistinct : fields.Distinct)
    {spellings : List String} (hfield : spellings ∈ fields) (key : String) :
    rename key ∈ spellings ↔ key ∈ spellings := by
  rcases h key with hsame | ⟨others, hothers, hkey, hrenamed⟩
  · rw [hsame]
  · constructor
    · intro hmem
      rwa [hdistinct _ hfield _ hothers _ hmem hrenamed]
    · intro hmem
      rwa [hdistinct _ hfield _ hothers _ hmem hkey]

/-- A respelled object has no field under two spellings either. -/
theorem SpelledOnce.respelled {members members' : Table Json} (honce : fields.SpelledOnce members)
    (hrename : fields.Respells rename) (hdistinct : fields.Distinct)
    (h : RespelledMembers fields rename value members members') :
    fields.SpelledOnce members' := by
  intro spellings hfield
  have horigin : ∀ m' ∈ members', m'.1 ∈ spellings →
      ∃ m ∈ members, m.1 ∈ spellings ∧ m'.1 = rename m.1 := by
    clear honce
    induction h with
    | nil => simp
    | kept _ _ ih =>
        intro m' hm' hkey
        rcases List.mem_cons.mp hm' with rfl | hm'
        · exact ⟨_, List.mem_cons_self, (hrename.mem_iff hdistinct hfield _).mp hkey, rfl⟩
        · obtain ⟨m, hm, horigin⟩ := ih m' hm' hkey
          exact ⟨m, List.mem_cons_of_mem _ hm, horigin⟩
    | added hunknown _ ih =>
        intro m' hm' hkey
        rcases List.mem_cons.mp hm' with rfl | hm'
        · exact absurd hkey (hunknown spellings hfield)
        · exact ih m' hm' hkey
  intro m₁' hm₁' m₂' hm₂' hkey₁ hkey₂
  obtain ⟨m₁, hm₁, hfield₁, heq₁⟩ := horigin m₁' hm₁' hkey₁
  obtain ⟨m₂, hm₂, hfield₂, heq₂⟩ := horigin m₂' hm₂' hkey₂
  rw [heq₁, heq₂, honce spellings hfield m₁ hm₁ m₂ hm₂ hfield₁ hfield₂]

end Fields

/-! ### The member of a field -/

/-- The first member whose key is one of the spellings. -/
def spelledMember? (spellings : List String) (members : Table Json) : Option (String × Json) :=
  members.find? (·.1 ∈ spellings)

/-- A member under a spelling of a field is the one of the field. -/
theorem spelledMember?_cons_of_mem {spellings : List String} {key : String} (h : key ∈ spellings)
    (document : Json) (members : Table Json) :
    spelledMember? spellings ((key, document) :: members) = some (key, document) :=
  List.find?_cons_of_pos (decide_eq_true h)

/-- A member under no spelling of a field is passed over. -/
theorem spelledMember?_cons_of_notMem {spellings : List String} {key : String} (h : key ∉ spellings)
    (document : Json) (members : Table Json) :
    spelledMember? spellings ((key, document) :: members) = spelledMember? spellings members :=
  List.find?_cons_of_neg (by simpa using h)

/-- Where a field has members under one spelling only, its member is the first one under any. -/
theorem member?_eq_spelledMember? {spellings : List String} (read : Reader α) {members : Table Json}
    (honce : ∀ m ∈ members, ∀ m' ∈ members, m.1 ∈ spellings → m'.1 ∈ spellings → m.1 = m'.1) :
    member? spellings read members =
      (spelledMember? spellings members).map fun m => (read m.2).within (.key m.1) := by
  rw [member?]
  cases hentry : spelledMember? spellings members with
  | none =>
      rw [spelledMember?, List.find?_eq_none] at hentry
      refine List.findSome?_eq_none_iff.mpr fun key hkey => ?_
      have habsent : members.lookup key = none := by
        refine List.lookup_eq_none_iff.mpr fun m hm => bne_iff_ne.mpr ?_
        rintro rfl
        exact hentry m hm (decide_eq_true hkey)
      rw [habsent, Option.map_none]
  | some m =>
      obtain ⟨hm, before, after, rfl, hbefore⟩ := List.find?_eq_some_iff_append.mp hentry
      obtain ⟨front, back, rfl, hfront⟩ := List.eq_append_cons_of_mem (of_decide_eq_true hm)
      refine List.findSome?_eq_some_iff.mpr ⟨front, m.1, back, rfl, ?_, fun key hkey => ?_⟩
      · have hlookup : (before ++ m :: after).lookup m.1 = some m.2 := by
          refine List.lookup_eq_some_iff.mpr ⟨before, after, rfl, fun p hp => bne_iff_ne.mpr ?_⟩
          intro heq
          have hnone := hbefore p hp
          rw [← heq, hm] at hnone
          cases hnone
        rw [hlookup, Option.map_some]
      · have habsent : (before ++ m :: after).lookup key = none := by
          refine List.lookup_eq_none_iff.mpr fun p hp => bne_iff_ne.mpr ?_
          rintro rfl
          have hsame := honce p hp m (by simp) (List.mem_append_left _ hkey)
            (of_decide_eq_true hm)
          exact hfront (hsame ▸ hkey)
        rw [habsent, Option.map_none]

variable {fields : Fields} {rename : String → String} {value : String → Json → Json → Prop}

/-- A respelled object has the member of a field where the object has it, or both have none. -/
theorem Fields.RespelledMembers.spelledMember?_cases {members members' : Table Json}
    (h : fields.RespelledMembers rename value members members') (hrename : fields.Respells rename)
    (hdistinct : fields.Distinct) {spellings : List String} (hfield : spellings ∈ fields) :
    spelledMember? spellings members = none ∧ spelledMember? spellings members' = none ∨
      ∃ key document document', value key document document' ∧ key ∈ spellings ∧
        spelledMember? spellings members = some (key, document) ∧
        spelledMember? spellings members' = some (rename key, document') := by
  induction h with
  | nil => exact .inl ⟨rfl, rfl⟩
  | @kept key _ _ _ _ hvalue _ ih =>
      have hiff := hrename.mem_iff hdistinct hfield key
      by_cases hkey : key ∈ spellings
      · rw [spelledMember?_cons_of_mem hkey, spelledMember?_cons_of_mem (hiff.mpr hkey)]
        exact .inr ⟨key, _, _, hvalue, hkey, rfl, rfl⟩
      · rwa [spelledMember?_cons_of_notMem hkey, spelledMember?_cons_of_notMem (mt hiff.mp hkey)]
  | added hunknown _ ih => rwa [spelledMember?_cons_of_notMem (hunknown spellings hfield)]

/-- **A field of a respelled object** is read as that of the object, with its faults at the places
that correspond, if this holds of the values. -/
theorem field_respelled {members members' : Table Json}
    (h : fields.RespelledMembers rename value members members') (honce : fields.SpelledOnce members)
    (hrename : fields.Respells rename) (hdistinct : fields.Distinct)
    {inner : String → List Step → List Step} {spellings : List String} (hfield : spellings ∈ fields)
    {read : Reader α} (absent : α)
    (hread : ∀ key ∈ spellings, ∀ document document', value key document document' →
      read document' = (read document).relocate (inner key)) :
    field spellings read absent members' =
      (field spellings read absent members).relocate (respellPlace rename inner) := by
  have honce' := honce.respelled hrename hdistinct h
  rw [field, field, member?_eq_spelledMember? read (honce spellings hfield),
    member?_eq_spelledMember? read (honce' spellings hfield)]
  rcases h.spelledMember?_cases hrename hdistinct hfield with
    ⟨hnone, hnone'⟩ | ⟨key, document, document', hvalue, hkey, hsome, hsome'⟩
  · rw [hnone, hnone']
    rfl
  · rw [hsome, hsome', Option.map_some, Option.map_some, Option.getD_some, Option.getD_some,
      hread key hkey _ _ hvalue, Checked.within_relocate]

/-- A field of an object whose members keep their values. -/
theorem field_respelled_same {members members' : Table Json}
    (h : fields.RespelledMembers rename (fun _ => Eq) members members')
    (honce : fields.SpelledOnce members) (hrename : fields.Respells rename)
    (hdistinct : fields.Distinct) {spellings : List String} (hfield : spellings ∈ fields)
    (read : Reader α) (absent : α) :
    field spellings read absent members' =
      (field spellings read absent members).relocate (respellPlace rename fun _ => id) := by
  refine field_respelled h honce hrename hdistinct hfield absent ?_
  rintro _ _ document _ rfl
  exact (Checked.relocate_id _).symm

/-- A value that may be `null` is respelled as it is where it is not. -/
theorem optional_respelled {document document' : Json} {place : List Step → List Step}
    {read : Reader α} (h : fields.Respelled rename value document document')
    (hread : read document' = (read document).relocate place) :
    optional read document' = (optional read document).relocate place := by
  have hmap : (read document').map some = ((read document).map some).relocate place := by
    rw [hread]
    exact (Checked.relocate_map some (read document)).symm
  cases h with
  | object => exact hmap
  | other =>
      cases document with
      | null => rfl
      | _ => exact hmap

/-- A record that is read by its members alike is read alike. -/
theorem record_respelled {document document' : Json} {place : List Step → List Step}
    {read : Table Json → Checked α} (h : fields.Respelled rename value document document')
    (hplace : place [] = [])
    (hread : ∀ members members', fields.SpelledOnce members →
      fields.RespelledMembers rename value members members' →
        read members' = (read members).relocate place) :
    record read document' = (record read document).relocate place := by
  cases h with
  | object honce hmembers => exact hread _ _ honce hmembers
  | other hother =>
      cases document with
      | object members => exact absurd rfl (hother members)
      | _ => exact (Checked.relocate_fail _ hplace).symm

end Schema

open Schema

/-! ### Alerts -/

namespace Alert

/-- The fields of an alert. Three of them have two spellings. -/
def fields : Fields :=
  [["type"], ["enabled"], ["failure-threshold", "failure_threshold"],
   ["success-threshold", "success_threshold"], ["description"],
   ["send-on-resolved", "send_on_resolved"], ["triggered"]]

/-- The fields of an alert share no spelling. -/
theorem fields_distinct : fields.Distinct := by decide

/-- A document of an alert, and one that is respelled. -/
abbrev Respelled (rename : String → String) : Json → Json → Prop :=
  fields.Respelled rename fun _ => Eq

/-- The place in a respelled document of an alert. -/
def place (rename : String → String) : List Step → List Step := respellPlace rename fun _ => id

/-- An alert whose keys are respelled is read alike, with its faults at the places of the new keys.
-/
theorem ofJson_of_respelled {rename : String → String} (hrename : fields.Respells rename)
    {document document' : Json} (h : Respelled rename document document') :
    ofJson document' = (ofJson document).relocate (place rename) := by
  refine record_respelled h rfl fun members members' honce hmembers => ?_
  have hfield : ∀ {α : Type} (spellings) (_ : spellings ∈ fields) (read : Reader α) (absent : α),
      field spellings read absent members' =
        (field spellings read absent members).relocate (place rename) :=
    fun _ => field_respelled_same hmembers honce hrename fields_distinct
  simp only [Checked.relocate_seq, Checked.relocate_map]
  rw [hfield ["type"] (by decide), hfield ["enabled"] (by decide),
    hfield ["failure-threshold", "failure_threshold"] (by decide),
    hfield ["success-threshold", "success_threshold"] (by decide),
    hfield ["description"] (by decide), hfield ["send-on-resolved", "send_on_resolved"] (by decide),
    hfield ["triggered"] (by decide)]

end Alert

/-! ### Client options -/

namespace ClientOptions

/-- The fields of client options. -/
def fields : Fields := [["timeout"], ["insecure"], ["follow_redirects"]]

/-- A document of client options, and one with further members. -/
abbrev Extended : Json → Json → Prop := fields.Respelled id fun _ => Eq

/-- Client options with further members are read as without them. -/
theorem ofJson_of_extended {document document' : Json} (h : Extended document document') :
    ofJson document' = ofJson document := by
  have hrelocated : ofJson document' = (ofJson document).relocate id := by
    refine record_respelled h rfl fun members members' honce hmembers => ?_
    have hfield : ∀ {α : Type} (spellings) (_ : spellings ∈ fields) (read : Reader α) (absent : α),
        field spellings read absent members' =
          (field spellings read absent members).relocate id := by
      intro α spellings hmem read absent
      rw [← respellPlace_id]
      exact field_respelled_same hmembers honce (fun _ => .inl rfl) (by decide) hmem read absent
    simp only [Checked.relocate_seq, Checked.relocate_map]
    rw [hfield ["timeout"] (by decide), hfield ["insecure"] (by decide),
      hfield ["follow_redirects"] (by decide)]
  rw [hrelocated, Checked.relocate_id]

end ClientOptions

/-! ### Configurations -/

namespace Config

/-- The spellings of the default alert. -/
def alertSpellings : List String := ["default-alert", "default_alert"]

/-- The fields of a configuration. -/
def fields : Fields :=
  [["url"], ["method"], ["body"], ["headers"], ["placeholders"], ["client"], alertSpellings]

/-- The fields of a configuration share no spelling. -/
theorem fields_distinct : fields.Distinct := by decide

/-- The keys of members with a value of their own, no record. -/
def plainKeys : List String := ["url", "method", "body", "headers", "placeholders"]

/-- The keys with a value of their own have one spelling, and are not those of records. -/
theorem plainKeys_apart :
    ∀ key ∈ plainKeys, [key] ∈ fields ∧ key ∉ alertSpellings ∧ key ≠ "client" := by
  decide

/-- The value of a member of a configuration, and one that is respelled where it is an alert or has
further members where it is client options. -/
inductive RespelledValue (nested : String → String) : String → Json → Json → Prop
  | alert {key : String} {document document' : Json} :
      key ∈ alertSpellings → Alert.Respelled nested document document' →
      RespelledValue nested key document document'
  | client {document document' : Json} :
      ClientOptions.Extended document document' →
      RespelledValue nested "client" document document'
  | same {key : String} {document : Json} :
      key ∉ alertSpellings → key ≠ "client" → RespelledValue nested key document document

/-- A document of a configuration, and one that is respelled, its default alert on its own. -/
abbrev Respelled (rename nested : String → String) : Json → Json → Prop :=
  fields.Respelled rename (RespelledValue nested)

/-- The place in a respelled document of a configuration. -/
def place (rename nested : String → String) : List Step → List Step :=
  respellPlace rename fun key => if key ∈ alertSpellings then Alert.place nested else id

/-- A configuration whose keys are respelled, at both depths, is read alike. -/
theorem ofJson_of_respelled {rename nested : String → String} (hrename : fields.Respells rename)
    (hnested : Alert.fields.Respells nested) {document document' : Json}
    (h : Respelled rename nested document document') :
    ofJson document' = (ofJson document).relocate (place rename nested) := by
  refine record_respelled h rfl fun members members' honce hmembers => ?_
  have hplain : ∀ {α : Type} (key) (_ : key ∈ plainKeys) (read : Reader α) (absent : α),
      field [key] read absent members' =
        (field [key] read absent members).relocate (place rename nested) := by
    intro α key hkey read absent
    obtain ⟨hmem, halert, hclient⟩ := plainKeys_apart key hkey
    refine field_respelled hmembers honce hrename fields_distinct hmem absent ?_
    intro key' hkey' document document' hvalue
    obtain rfl := List.mem_singleton.mp hkey'
    rw [if_neg halert, Checked.relocate_id]
    cases hvalue with
    | alert hmem => exact absurd hmem halert
    | client => exact absurd rfl hclient
    | same => rfl
  have hclient : field ["client"] (optional ClientOptions.ofJson) none members' =
      (field ["client"] (optional ClientOptions.ofJson) none members).relocate
        (place rename nested) := by
    refine field_respelled hmembers honce hrename fields_distinct (by decide) none ?_
    intro key hkey document document' hvalue
    obtain rfl := List.mem_singleton.mp hkey
    rw [if_neg (by decide)]
    cases hvalue with
    | alert hmem => exact absurd hmem (by decide)
    | client hextended =>
        refine optional_respelled hextended ?_
        rw [ClientOptions.ofJson_of_extended hextended, Checked.relocate_id]
    | same _ hne => exact absurd rfl hne
  have halert : field ["default-alert", "default_alert"] (optional Alert.ofJson) none members' =
      (field ["default-alert", "default_alert"] (optional Alert.ofJson) none members).relocate
        (place rename nested) := by
    refine field_respelled hmembers honce hrename fields_distinct (by decide) none ?_
    intro key hkey document document' hvalue
    have hspelling : key ∈ alertSpellings := hkey
    rw [if_pos hspelling]
    cases hvalue with
    | alert _ hrespelled =>
        exact optional_respelled hrespelled (Alert.ofJson_of_respelled hnested hrespelled)
    | client => exact absurd hspelling (by decide)
    | same hother => exact absurd hspelling hother
  simp only [Checked.relocate_seq, Checked.relocate_map]
  rw [hplain "url" (by decide), hplain "method" (by decide), hplain "body" (by decide),
    hplain "headers" (by decide), hplain "placeholders" (by decide), hclient, halert]

end Config

/-! ### The two spellings -/

/-- **Both spellings of a key are interchangeable**, for an alert and for a configuration with its
default alert. Let no aliased field of a document have members under both of its spellings. Where
keys are renamed between the spellings of their fields, at both depths, and members with unknown
keys are added, the document is read as the same record, or it is refused with the same faults, in
whose places the keys are renamed alike. -/
theorem ofJson_respelled {rename nested : String → String} (hrename : Config.fields.Respells rename)
    (hnested : Alert.fields.Respells nested) :
    (∀ document document', Alert.Respelled nested document document' →
        Alert.ofJson document' = (Alert.ofJson document).relocate (Alert.place nested)) ∧
      (∀ document document', Config.Respelled rename nested document document' →
        Config.ofJson document' =
          (Config.ofJson document).relocate (Config.place rename nested)) :=
  ⟨fun _ _ h => Alert.ofJson_of_respelled hnested h,
    fun _ _ h => Config.ofJson_of_respelled hrename hnested h⟩

/-- An alert that is valid under either spelling, and a configuration whose faults are seen under
the other one, at both depths. -/
theorem ofJson_respelled_nested :
    let rename : String → String := fun key =>
      if key = "default-alert" then "default_alert" else key
    let nested : String → String := fun key =>
      if key = "failure_threshold" then "failure-threshold"
      else if key = "send-on-resolved" then "send_on_resolved" else key
    let alert : Json := .object [("failure_threshold", .string " 7.0 "), ("note", .null)]
    let alert' : Json :=
      .object [("x", .int 1), ("failure-threshold", .string " 7.0 "), ("note", .null)]
    let config : Json :=
      .object [("default-alert", .object [("send-on-resolved", .int 2)]), ("url", .null)]
    let config' : Json :=
      .object
        [("default_alert", .object [("send_on_resolved", .int 2)]), ("", .null), ("url", .null)]
    Config.fields.Respells rename ∧ Alert.fields.Respells nested ∧
      Alert.Respelled nested alert alert' ∧ Config.Respelled rename nested config config' ∧
      Alert.ofJson alert' = .valid { failureThreshold := 7 } ∧
      Config.ofJson config' = .faulty
        [⟨[.key "url"], .notText⟩,
         ⟨[.key "default_alert", .key "send_on_resolved"], .unreadableFlag⟩] := by
  intro rename nested alert alert' config config'
  have hrename : Config.fields.Respells rename := by
    intro key
    by_cases h : key = "default-alert"
    · exact .inr ⟨Config.alertSpellings, by decide, by rw [h]; decide, by rw [h]; decide⟩
    · exact .inl (if_neg h)
  have hnested : Alert.fields.Respells nested := by
    intro key
    by_cases hfailure : key = "failure_threshold"
    · exact .inr ⟨["failure-threshold", "failure_threshold"], by decide, by rw [hfailure]; decide,
        by rw [hfailure]; decide⟩
    · by_cases hsend : key = "send-on-resolved"
      · exact .inr ⟨["send-on-resolved", "send_on_resolved"], by decide, by rw [hsend]; decide,
          by rw [hsend]; decide⟩
      · exact .inl ((if_neg hfailure).trans (if_neg hsend))
  have halert : Alert.Respelled nested alert alert' :=
    .object (by decide) (.added (by decide) (.kept rfl (.kept rfl .nil)))
  have hconfig : Config.Respelled rename nested config config' := by
    refine .object (by decide) (.kept (.alert (by decide) ?_) (.added (by decide) (.kept ?_ .nil)))
    · exact .object (by decide) (.kept rfl .nil)
    · exact .same (by decide) (by decide)
  obtain ⟨hread, hread'⟩ := ofJson_respelled hrename hnested
  refine ⟨hrename, hnested, halert, hconfig, ?_, ?_⟩
  · exact (hread alert alert' halert).trans (by decide +kernel)
  · exact (hread' config config' hconfig).trans (by decide +kernel)

end AlertRelay

import AlertRelay.Proofs.Table
import AlertRelay.Schema.Scalar

/-!
# Documents That Are Valid

A compound document is valid if its parts are, and then it has the values of its parts. A reader
that accepts one form of document for each value is told by the function that gives this form;
such a function is carried from the values of a table to the table.

## Main results

* `Schema.Forms.table`: **the form of a table** is told by the form of its values.
-/

namespace AlertRelay.Schema

variable {α β : Type}

/-! ### Valid parts -/

namespace Checked

/-- A result that a function is applied to is accepted exactly if it was before. -/
theorem map_eq_valid_iff {f : α → β} {x : Checked α} {b : β} :
    x.map f = .valid b ↔ ∃ a, x = .valid a ∧ b = f a := by
  cases x with
  | valid a =>
      constructor
      · intro h
        cases h
        exact ⟨a, rfl, rfl⟩
      · rintro ⟨_, ⟨⟩, rfl⟩
        rfl
  | faulty faults =>
      refine iff_of_false nofun ?_
      rintro ⟨_, ⟨⟩, -⟩

/-- Two results that are combined are accepted exactly if both are. -/
theorem ap_eq_valid_iff {f : Checked (α → β)} {x : Checked α} {b : β} :
    f.ap x = .valid b ↔ ∃ g a, f = .valid g ∧ x = .valid a ∧ b = g a := by
  cases f with
  | valid g =>
      cases x with
      | valid a =>
          constructor
          · intro h
            cases h
            exact ⟨g, a, rfl, rfl, rfl⟩
          · rintro ⟨_, _, ⟨⟩, ⟨⟩, rfl⟩
            rfl
      | faulty faults =>
          refine iff_of_false nofun ?_
          rintro ⟨_, _, -, ⟨⟩, -⟩
  | faulty faults =>
      refine iff_of_false (by cases x <;> exact nofun) ?_
      rintro ⟨_, _, ⟨⟩, -⟩

/-- Where a result stands makes no difference to whether it is accepted. -/
theorem within_eq_valid_iff {step : Step} {x : Checked α} {a : α} :
    x.within step = .valid a ↔ x = .valid a := by
  cases x with
  | valid => exact Iff.rfl
  | faulty => exact iff_of_false nofun nofun

end Checked

/-! ### Forms of documents -/

/-- The reader accepts the documents that a function gives, each with the value it is given for. -/
def Forms (read : Reader α) (form : α → Json) : Prop :=
  ∀ (document : Json) (a : α), read document = .valid a ↔ document = form a

/-- The documents of texts are the JSON texts. -/
theorem forms_text : Forms text .string := by
  intro document s
  cases document with
  | string t =>
      constructor
      · intro h
        cases h
        rfl
      · rintro ⟨⟩
        rfl
  | _ => exact iff_of_false nofun nofun

/-- The members of a table are read one after the other. -/
theorem Forms.members {read : Reader α} {form : α → Json} (h : Forms read form)
    {members : Table Json} {table : Table α} :
    tableOf read (.object members) = .valid table ↔ members = table.mapValues form := by
  rw [tableOf]
  induction members generalizing table with
  | nil =>
      cases table with
      | nil => exact iff_of_true rfl rfl
      | cons => exact iff_of_false nofun nofun
  | cons member members ih =>
      obtain ⟨key, document⟩ := member
      rw [collect, Checked.ap_eq_valid_iff]
      constructor
      · rintro ⟨_, rest, hfirst, hrest, rfl⟩
        obtain ⟨entry, hentry, rfl⟩ := Checked.map_eq_valid_iff.mp hfirst
        obtain ⟨a, ha, rfl⟩ := Checked.map_eq_valid_iff.mp (Checked.within_eq_valid_iff.mp hentry)
        obtain rfl : document = form a := (h _ _).mp ha
        rw [ih.mp hrest]
        rfl
      · intro heq
        cases table with
        | nil => cases heq
        | cons entry table =>
            obtain ⟨hfirst, hrest⟩ := List.cons.inj heq
            obtain ⟨rfl, hdocument⟩ := Prod.mk.inj hfirst
            refine ⟨_, table, ?_, ih.mpr hrest, rfl⟩
            rw [(h _ _).mpr hdocument]
            rfl

/-- **The form of a table** is told by the form of its values. -/
theorem Forms.table {read : Reader α} {form : α → Json} (h : Forms read form) :
    Forms (tableOf read) fun table => .object (table.mapValues form) := by
  intro document table
  cases document with
  | object members =>
      rw [h.members, Json.object.injEq]
  | _ => exact iff_of_false nofun nofun

end AlertRelay.Schema

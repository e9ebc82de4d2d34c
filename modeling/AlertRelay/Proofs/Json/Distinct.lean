import AlertRelay.Proofs.Json.Grammar

/-!
# Keys of JSON Values

A text may give a member of an object twice, but the table of the object has it once. So in a
value that a text spells no object has a key twice, at whatever depth it stands.

## Main results

* `Json.Spells.distinct`: **the keys of what a text spells are distinct**.
-/

namespace AlertRelay.Json

/-- No object in a value has a key twice. -/
inductive Distinct : Json → Prop
  | scalar {value : Json} : (∀ items, value ≠ .array items) → (∀ table, value ≠ .object table) →
      Distinct value
  | array {items : List Json} : (∀ item ∈ items, Distinct item) → Distinct (.array items)
  | object {table : Table Json} : (table.map Prod.fst).Nodup →
      (∀ entry ∈ table, Distinct entry.2) → Distinct (.object table)

/-- The keys of an object with distinct keys do not repeat. -/
theorem Distinct.keys_nodup {table : Table Json} (h : Distinct (.object table)) :
    (table.map Prod.fst).Nodup := by
  cases h with
  | scalar _ hobject => exact absurd rfl (hobject table)
  | object hkeys _ => exact hkeys

/-- The values within such an object have distinct keys as well. -/
theorem Distinct.of_mem {table : Table Json} (h : Distinct (.object table)) {key : String}
    {value : Json} (hentry : (key, value) ∈ table) : Distinct value := by
  cases h with
  | scalar _ hobject => exact absurd rfl (hobject table)
  | object _ hvalues => exact hvalues _ hentry

/-- No object in the values of a phrase has a key twice. -/
def Phrase.Distinct : Phrase → Prop
  | .value v | .slot v | .member _ v => Json.Distinct v
  | .items list => ∀ v ∈ list, Json.Distinct v
  | .members pairs => ∀ pair ∈ pairs, Json.Distinct pair.2

/-- A value without parts has no keys. -/
theorem Word.distinct {s : List Char} {value : Json} (h : Word s value) : Distinct value := by
  cases h with
  | number hnumeral | minus hnumeral => cases hnumeral <;> exact .scalar nofun nofun
  | _ => exact .scalar nofun nofun

/-- **The keys of what a text spells are distinct**, in every object of it. -/
theorem Spells.distinct {s : List Char} {phrase : Phrase} (h : Spells s phrase) :
    phrase.Distinct := by
  induction h with
  | word hword => exact hword.distinct
  | text => exact Distinct.scalar nofun nofun
  | emptyArray => exact Distinct.array nofun
  | array _ ih => exact Distinct.array ih
  | emptyObject => exact Distinct.object List.nodup_nil nofun
  | object _ hgathers ih =>
    refine Distinct.object ?_ fun entry hentry => ih entry (hgathers.mem_pairs hentry)
    rw [Table.gathers_iff.mp hgathers]
    exact (Table.gathers_ofPairs _).2
  | slot _ _ _ ih => exact ih
  | item _ ih => exact List.forall_mem_singleton.mpr ih
  | moreItems _ _ ih ihrest => exact List.forall_mem_cons.mpr ⟨ih, ihrest⟩
  | pair _ _ _ _ ih => exact ih
  | member _ ih => exact List.forall_mem_singleton.mpr ih
  | moreMembers _ _ ih ihrest => exact List.forall_mem_cons.mpr ⟨ih, ihrest⟩

end AlertRelay.Json

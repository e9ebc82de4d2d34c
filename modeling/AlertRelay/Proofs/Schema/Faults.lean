import AlertRelay.Proofs.Schema.Checked
import Mathlib.Data.List.Nodup

/-!
# The Faults of a Document

Reading a compound document stops at no fault: the faults of a table are those of all of its
values, in their order, each seen from the table. If no key of the table comes twice and the
faults of every value stand at different places, then so do the faults of the table.

A document is refused only over a fault (`Founded`), so that one without faults is valid.

The faults are shown as rows in an order of their own. There is one row for each fault, and rows
of different places are different.

## Main results

* `faults_tableOf`, `Founded.tableOf`: **the faults of a table**.
* `places_nodup_tableOf`: they stand at different places.
* `rows_perm`, `rows_nodup`: the rows are the faults, one by one.
-/

namespace AlertRelay.Schema

variable {α β ι : Type}

/-! ### Faults of the parts -/

namespace Checked

/-- The faults of a result; a valid one has none. -/
def faults : Checked α → List Fault
  | .valid _ => []
  | .faulty faults => faults

/-- A result that is accepted has no faults. -/
theorem faults_valid (a : α) : (valid a).faults = [] := rfl

/-- A function that is applied to a result leaves its faults. -/
theorem faults_map (f : α → β) (x : Checked α) : (x.map f).faults = x.faults := by
  cases x <;> rfl

/-- Two results that are combined have the faults of both, in order. -/
theorem faults_ap (f : Checked (α → β)) (x : Checked α) :
    (f.ap x).faults = f.faults ++ x.faults := by
  cases f with
  | valid => cases x <;> rfl
  | faulty faults =>
      cases x with
      | valid => exact (List.append_nil faults).symm
      | faulty => rfl

/-- The faults of a part are faults of the whole, one step further down. -/
theorem faults_within (step : Step) (x : Checked α) :
    (x.within step).faults = x.faults.map (·.within step) := by
  cases x <;> rfl

/-- A result that is refused over some fault, if it is. -/
def Founded (x : Checked α) : Prop := x.faults = [] → ∃ a, x = .valid a

/-- A result that is accepted need not be refused over anything. -/
theorem founded_valid (a : α) : (valid a).Founded := fun _ => ⟨a, rfl⟩

/-- A refusal over one cause has that fault. -/
theorem founded_fail (cause : Cause) : (fail cause : Checked α).Founded := nofun

/-- A function that is applied to a result takes no fault away. -/
theorem Founded.map {x : Checked α} (h : x.Founded) (f : α → β) : (x.map f).Founded := by
  intro hnone
  obtain ⟨a, rfl⟩ := h ((faults_map f x).symm.trans hnone)
  exact ⟨f a, rfl⟩

/-- A result that stands within another one keeps its faults. -/
theorem Founded.within {x : Checked α} (h : x.Founded) (step : Step) : (x.within step).Founded := by
  intro hnone
  rw [faults_within, List.map_eq_nil_iff] at hnone
  obtain ⟨a, rfl⟩ := h hnone
  exact ⟨a, rfl⟩

/-- Two results that are refused over faults only are so together. -/
theorem Founded.ap {f : Checked (α → β)} {x : Checked α} (hf : f.Founded) (hx : x.Founded) :
    (f.ap x).Founded := by
  intro hnone
  rw [faults_ap, List.append_eq_nil_iff] at hnone
  obtain ⟨g, rfl⟩ := hf hnone.1
  obtain ⟨a, rfl⟩ := hx hnone.2
  exact ⟨g a, rfl⟩

end Checked

open Checked

/-- The faults of a collection are those of its parts, each below its own step. -/
theorem faults_collect (step : ι → Step) (read : ι → Checked α) (parts : List ι) :
    (collect step read parts).faults =
      parts.flatMap fun part => (read part).faults.map (·.within (step part)) := by
  induction parts with
  | nil => rfl
  | cons part rest ih =>
      rw [collect, faults_ap, faults_map, faults_within, ih, List.flatMap_cons]

/-- A collection is refused over the faults of its parts only. -/
theorem founded_collect {step : ι → Step} {read : ι → Checked α} {parts : List ι}
    (h : ∀ part, (read part).Founded) : (collect step read parts).Founded := by
  induction parts with
  | nil => exact founded_valid []
  | cons part rest ih => exact (((h part).within _).map _).ap ih

/-- **The faults of a table** are those of its values, each seen from the table. -/
theorem faults_tableOf (read : Reader α) (members : Table Json) :
    (tableOf read (.object members)).faults =
      members.flatMap fun m => (read m.2).faults.map (·.within (.key m.1)) := by
  rw [tableOf, faults_collect]
  simp only [faults_map]

/-- A table is refused over some fault: over its kind, or over one of its entries. -/
theorem Founded.tableOf {read : Reader α} (h : ∀ document, (read document).Founded)
    (document : Json) : (tableOf read document).Founded := by
  cases document with
  | object members => exact founded_collect fun member => (h member.2).map _
  | _ => exact founded_fail _

/-- A text is refused over its kind. -/
theorem founded_text (document : Json) : (text document).Founded := by
  cases document with
  | string s => exact founded_valid s
  | _ => exact founded_fail _

/-! ### Places -/

/-- One step further down, all places begin with this step. -/
theorem map_place_within (step : Step) (faults : List Fault) :
    (faults.map (·.within step)).map Fault.place = (faults.map Fault.place).map (step :: ·) := by
  rw [List.map_map, List.map_map]
  rfl

/-- The faults of a table stand at different places if those of every value do. -/
theorem places_nodup_tableOf {read : Reader α} {members : Table Json}
    (hkeys : (members.map Prod.fst).Nodup)
    (hvalues : ∀ m ∈ members, ((read m.2).faults.map Fault.place).Nodup) :
    ((tableOf read (.object members)).faults.map Fault.place).Nodup := by
  rw [faults_tableOf, List.map_flatMap]
  simp only [map_place_within]
  refine List.nodup_flatMap.mpr ⟨fun m hm => ?_, ?_⟩
  · exact (hvalues m hm).map fun _ _ h => (List.cons.inj h).2
  · refine (List.pairwise_map.mp hkeys).imp fun {m m'} hkey => ?_
    intro place hplace hplace'
    obtain ⟨rest, -, rfl⟩ := List.mem_map.mp hplace
    obtain ⟨rest', -, heq⟩ := List.mem_map.mp hplace'
    exact hkey (Step.key.inj (List.cons.inj heq).1).symm

/-- A text has one fault at most. -/
theorem places_nodup_text (document : Json) : ((text document).faults.map Fault.place).Nodup := by
  cases document with
  | string s => exact List.nodup_nil
  | _ => exact List.nodup_singleton _

/-! ### Rows -/

/-- The rows are the faults, one by one, in another order. -/
theorem rows_perm (faults : List Fault) : (rows faults).Perm (faults.map Fault.toJson) := by
  refine ((List.mergeSort_perm _ _).map Prod.snd).trans ?_
  rw [List.map_map]
  rfl

/-- Different steps are shown differently. -/
theorem Step.toJson_injective : Function.Injective Step.toJson := by
  intro step step' h
  cases step with
  | key name =>
      cases step' with
      | key name' => exact congrArg Step.key (Json.string.inj h)
      | index position => cases h
  | index position =>
      cases step' with
      | key name' => cases h
      | index position' =>
          exact congrArg Step.index (Int.ofNat.inj (Json.int.inj h))

/-- A row tells the place. -/
theorem Fault.place_eq_of_toJson {f g : Fault} (h : f.toJson = g.toJson) : f.place = g.place := by
  have hplace := (Prod.mk.inj (List.cons.inj (Json.object.inj h)).1).2
  exact Step.toJson_injective.list_map (Json.array.inj hplace)

/-- Faults of different places have different rows. -/
theorem rows_nodup {faults : List Fault} (h : (faults.map Fault.place).Nodup) :
    (rows faults).Nodup := by
  refine (rows_perm faults).nodup_iff.mpr (List.pairwise_map.mpr ?_)
  exact (List.pairwise_map.mp h).imp fun {f g} hplace hrow =>
    hplace (Fault.place_eq_of_toJson hrow)

end AlertRelay.Schema

import AlertRelay.Table
import Mathlib.Data.List.Induction
import Mathlib.Data.List.Nodup

/-!
# Tables Gathered from Pairs

A list of pairs is gathered into a table by putting one pair after the other. A key that comes
again keeps its first place and takes its last value. This decides the table: its keys are those
of the pairs in the order in which they first come, each with the value that comes last.

## Main results

* `Table.gathers_iff`: **the table of a list of pairs**.
-/

namespace AlertRelay.Table

variable {α : Type}

/-- What a list of pairs gathers into: the keys in the order in which they first come, each with
the value that comes last. -/
structure Gathers (pairs : List (String × α)) (table : Table α) : Prop where
  keys : table.map Prod.fst = (pairs.map Prod.fst).eraseDups
  values : ∀ key, table.lookup key = pairs.reverse.lookup key

/-- What is found in a table is its first entry under the key. -/
theorem lookup_cons_eq (k : String) (v : α) (table : Table α) (key : String) :
    List.lookup key ((k, v) :: table) = if key = k then some v else table.lookup key := by
  rw [List.lookup_cons]
  by_cases h : key = k
  · rw [if_pos h, beq_iff_eq.mpr h]
  · rw [if_neg h, beq_eq_false_iff_ne.mpr h]

/-- A value that is put is found under its key, and every other key as before. -/
theorem lookup_put (key : String) (value : α) (table : Table α) (key' : String) :
    (put key value table).lookup key' = if key' = key then some value else table.lookup key' := by
  induction table with
  | nil => rw [put, lookup_cons_eq]
  | cons entry table ih =>
      obtain ⟨k, v⟩ := entry
      rw [put]
      by_cases hk : k = key
      · rw [if_pos hk, lookup_cons_eq, lookup_cons_eq, hk]
        split <;> rfl
      · rw [if_neg hk, lookup_cons_eq, ih, lookup_cons_eq]
        by_cases hkey : key' = key
        · have hother : key' ≠ k := fun h => hk (h.symm.trans hkey)
          simp only [if_pos hkey, if_neg hother]
        · simp only [if_neg hkey]

/-- A key that is put keeps its place, or comes last if it is new. -/
theorem keys_put (key : String) (value : α) (table : Table α) :
    (put key value table).map Prod.fst =
      if key ∈ table.map Prod.fst then table.map Prod.fst else table.map Prod.fst ++ [key] := by
  induction table with
  | nil => rfl
  | cons entry table ih =>
      obtain ⟨k, v⟩ := entry
      rw [put]
      by_cases hk : k = key
      · rw [if_pos hk, hk, if_pos (by simp)]
        rfl
      · have hmem : key ∈ ((k, v) :: table).map Prod.fst ↔ key ∈ table.map Prod.fst := by
          rw [List.map_cons, List.mem_cons, or_iff_right fun h => hk h.symm]
        rw [if_neg hk, List.map_cons, ih]
        by_cases hthere : key ∈ table.map Prod.fst
        · rw [if_pos hthere, if_pos (hmem.mpr hthere), List.map_cons]
        · rw [if_neg hthere, if_neg (mt hmem.mp hthere), List.map_cons, List.cons_append]

/-- Tables of the same keys, none of which comes twice, are equal if they have the same values. -/
theorem eq_of_lookup {table table' : Table α} (hkeys : table.map Prod.fst = table'.map Prod.fst)
    (hnodup : (table.map Prod.fst).Nodup) (hvalues : ∀ key, table.lookup key = table'.lookup key) :
    table = table' := by
  induction table generalizing table' with
  | nil => exact (List.map_eq_nil_iff.mp hkeys.symm).symm
  | cons entry table ih =>
      obtain ⟨k, v⟩ := entry
      cases table' with
      | nil => cases hkeys
      | cons entry' table' =>
          obtain ⟨k', v'⟩ := entry'
          obtain ⟨hk, htail⟩ := List.cons.inj hkeys
          obtain rfl : k = k' := hk
          obtain ⟨hnew, hnodup⟩ := List.nodup_cons.mp hnodup
          have hv : v = v' := by
            have hfirst := hvalues k
            rw [lookup_cons_eq, lookup_cons_eq, if_pos rfl, if_pos rfl] at hfirst
            exact Option.some.inj hfirst
          have habsent {t : Table α} (ht : t.map Prod.fst = table.map Prod.fst) :
              t.lookup k = none := by
            rw [List.lookup_eq_none_iff]
            intro entry hentry
            rw [bne_iff_ne]
            intro hkey
            have hold := List.mem_map_of_mem (f := Prod.fst) hentry
            rw [ht, ← hkey] at hold
            exact hnew hold
          rw [hv, ih htail hnodup]
          intro key
          by_cases hkey : key = k
          · rw [hkey, habsent rfl, habsent htail.symm]
          · have hother := hvalues key
            rwa [lookup_cons_eq, lookup_cons_eq, if_neg hkey, if_neg hkey] at hother

/-- One more pair is put after those before it. -/
theorem ofPairs_append_singleton (pairs : List (String × α)) (pair : String × α) :
    ofPairs (pairs ++ [pair]) = put pair.1 pair.2 (ofPairs pairs) := List.foldl_append

/-- A new key comes last. -/
theorem put_of_not_mem {key : String} {table : Table α} (h : key ∉ table.map Prod.fst) (value : α) :
    put key value table = table ++ [(key, value)] := by
  induction table with
  | nil => rfl
  | cons entry table ih =>
      obtain ⟨k, v⟩ := entry
      obtain ⟨hk, hkey⟩ := not_or.mp (mt List.mem_cons.mpr h)
      rw [put, if_neg (Ne.symm hk), ih hkey, List.cons_append]

/-- Pairs none of whose keys comes twice are a table as they are. -/
theorem ofPairs_of_nodup {pairs : List (String × α)} (h : (pairs.map Prod.fst).Nodup) :
    ofPairs pairs = pairs := by
  induction pairs using List.reverseRecOn with
  | nil => rfl
  | append_singleton pairs pair ih =>
      obtain ⟨key, value⟩ := pair
      rw [List.map_append] at h
      obtain ⟨hpairs, -, hnew⟩ := List.nodup_append.mp h
      have hkey : key ∉ pairs.map Prod.fst := fun hold => hnew key hold key (by simp) rfl
      rw [ofPairs_append_singleton, ih hpairs, put_of_not_mem hkey]

/-- The table that is made of pairs gathers them, under distinct keys. -/
theorem gathers_ofPairs (pairs : List (String × α)) :
    Gathers pairs (ofPairs pairs) ∧ ((ofPairs pairs).map Prod.fst).Nodup := by
  induction pairs using List.reverseRecOn with
  | nil => exact ⟨⟨rfl, fun _ => rfl⟩, List.nodup_nil⟩
  | append_singleton pairs pair ih =>
      obtain ⟨⟨hkeys, hvalues⟩, hnodup⟩ := ih
      obtain ⟨key, value⟩ := pair
      rw [ofPairs_append_singleton]
      refine ⟨⟨?_, ?_⟩, ?_⟩
      · have hadded : ([key].removeAll (pairs.map Prod.fst)).eraseDups =
            if key ∈ pairs.map Prod.fst then [] else [key] := by
          rw [List.cons_removeAll]
          by_cases hold : key ∈ pairs.map Prod.fst
          · simp [hold]
          · simp [hold, List.eraseDups_cons]
        rw [keys_put, hkeys, List.map_append, List.eraseDups_append]
        simp only [List.map_cons, List.map_nil, hadded, List.mem_eraseDups]
        split
        · rw [List.append_nil]
        · rfl
      · intro key'
        rw [lookup_put, hvalues, List.reverse_append, List.reverse_singleton,
          List.singleton_append, lookup_cons_eq]
      · rw [keys_put]
        split
        · exact hnodup
        · next hnew =>
            refine List.nodup_append.mpr ⟨hnodup, List.nodup_singleton _, ?_⟩
            rintro old hold new hkey rfl
            exact hnew (List.mem_singleton.mp hkey ▸ hold)

/-- **The table of a list of pairs** is what the pairs gather into. -/
theorem gathers_iff {pairs : List (String × α)} {table : Table α} :
    Gathers pairs table ↔ table = ofPairs pairs := by
  obtain ⟨hgathers, hnodup⟩ := gathers_ofPairs pairs
  constructor
  · rintro ⟨hkeys, hvalues⟩
    refine (eq_of_lookup (hgathers.keys.trans hkeys.symm) hnodup fun key => ?_).symm
    rw [hgathers.values, hvalues]
  · rintro rfl
    exact hgathers

/-- An entry after a put is the new one or was there before. -/
theorem mem_put {key : String} {value : α} {table : Table α} {entry : String × α}
    (h : entry ∈ put key value table) : entry = (key, value) ∨ entry ∈ table := by
  induction table with
  | nil => exact .inl (List.mem_singleton.mp h)
  | cons first rest ih =>
      obtain ⟨k, v⟩ := first
      rw [put] at h
      split at h
      · exact (List.mem_cons.mp h).imp_right (List.mem_cons_of_mem _)
      · obtain rfl | hrest := List.mem_cons.mp h
        · exact .inr List.mem_cons_self
        · exact (ih hrest).imp_right (List.mem_cons_of_mem _)

/-- Every entry of a table is one of the pairs that it is gathered from. -/
theorem Gathers.mem_pairs {pairs : List (String × α)} {table : Table α} (h : Gathers pairs table)
    {entry : String × α} (hentry : entry ∈ table) : entry ∈ pairs := by
  rw [gathers_iff.mp h] at hentry
  clear h
  induction pairs using List.reverseRecOn with
  | nil => exact hentry
  | append_singleton pairs pair ih =>
      rw [ofPairs_append_singleton] at hentry
      obtain rfl | hold := mem_put hentry
      · exact List.mem_append_right _ (List.mem_singleton_self _)
      · exact List.mem_append_left _ (ih hold)

end AlertRelay.Table

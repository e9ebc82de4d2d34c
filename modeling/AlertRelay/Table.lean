/-!
# Ordered tables

A table maps texts to values and remembers the order in which its keys first came.

## Main definitions

* `Table.put`: sets the value of a key.
* `Table.ofPairs`: the table of a list of pairs, where a repeated key keeps its first place and
  takes its last value.
-/

namespace AlertRelay

/-- Keys with their values, in the order in which the keys first came. -/
abbrev Table (α : Type) := List (String × α)

namespace Table

variable {α β : Type}

/-- Sets the value of a key: in place when the table has the key, at the end otherwise. -/
def put (key : String) (value : α) : Table α → Table α
  | [] => [(key, value)]
  | (k, v) :: rest => if k = key then (key, value) :: rest else (k, v) :: put key value rest

/-- The table of a list of pairs, later pairs overriding earlier ones. -/
def ofPairs (pairs : List (String × α)) : Table α :=
  pairs.foldl (fun table p => table.put p.1 p.2) []

/-- The table with every value changed and every key kept. -/
def mapValues (f : α → β) (table : Table α) : Table β := table.map fun p => (p.1, f p.2)

end Table

end AlertRelay

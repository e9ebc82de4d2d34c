/-!
# Ranges of code points

A property of characters is kept as a list of ranges of code points.

## Main definitions

* `inRanges`: membership of a code point in such a list.
-/

namespace AlertRelay.Text

/-- Whether a range of the table, both ends included, covers `n`. -/
def inRanges (table : List (Nat × Nat)) (n : Nat) : Bool :=
  table.any fun r => decide (r.1 ≤ n) && decide (n ≤ r.2)

end AlertRelay.Text

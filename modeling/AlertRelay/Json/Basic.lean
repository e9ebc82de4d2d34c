import AlertRelay.Number.Binary64
import AlertRelay.Table

/-!
# JSON values

Numbers keep the kind in which they were written, integer or floating point, and objects keep
the order of their keys.
-/

namespace AlertRelay

/-- A JSON value. -/
inductive Json
  | null
  | bool (value : Bool)
  | int (value : Int)
  | float (value : Number.Binary64)
  | string (value : String)
  | array (items : List Json)
  | object (members : List (String × Json))
  deriving Inhabited, Repr

namespace Json

/-- A value that may be absent, `null` standing for none. -/
def ofOption {α : Type} (encode : α → Json) : Option α → Json
  | some a => encode a
  | none => .null

/-- The member of an object under a key; nothing for any other value. -/
def member? (key : String) : Json → Option Json
  | .object members => members.lookup key
  | _ => none

end Json

end AlertRelay

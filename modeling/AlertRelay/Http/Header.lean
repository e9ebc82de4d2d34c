import AlertRelay.Text.Case
import AlertRelay.Text.Utf8

/-!
# Header fields

Names of header fields are compared without regard to case; the order of the fields and the
spelling of their names is kept. The values of the fields of one message are texts in the same
encoding, which is UTF-8 as long as all of them are well formed in it, and otherwise Latin-1.

## Main definitions

* `Header`: a field with its name and its value.
* `Headers.has`, `Headers.set`, `Headers.erase`: operations by name.
* `Headers.valueText`, `Headers.joined?`: the values as texts.
-/

namespace AlertRelay.Http

open AlertRelay.Text

/-- A header field. -/
structure Header where
  name : String
  value : Octets
  deriving DecidableEq, Repr, Inhabited

/-- Whether a field has a name. -/
def Header.named (name : String) (h : Header) : Bool := asciiLower h.name = asciiLower name

/-- Header fields in order. -/
abbrev Headers := List Header

namespace Headers

/-- Whether a field of a name is present. -/
def has (name : String) (headers : Headers) : Bool := headers.any (·.named name)

/-- The fields without those of a name. -/
def erase (name : String) (headers : Headers) : Headers := headers.filter (!·.named name)

/-- Sets the only field of a name: in place of the first one that has it, or at the end. -/
def set (name : String) (value : Octets) (headers : Headers) : Headers :=
  let field : Header := ⟨name, value⟩
  match headers.span (!·.named name) with
  | (_, []) => headers ++ [field]
  | (before, _ :: after) => before ++ field :: erase name after

/-- Whether all values are well formed in UTF-8. -/
def isUtf8 (headers : Headers) : Bool := headers.all fun h => (decode? h.value).isSome

/-- The text of octets each of which is the code point of a character. -/
def latin1 (raw : Octets) : String := String.ofList (raw.map fun b => Char.ofNat b.toNat)

/-- The text of a value in the encoding that all the fields have. -/
def valueText (headers : Headers) (value : Octets) : String :=
  if headers.isUtf8 then decode value else latin1 value

/-- The values of the fields of a name, with commas between them. -/
def joined? (name : String) (headers : Headers) : Option String :=
  match headers.filter (·.named name) with
  | [] => none
  | fields => some (", ".intercalate (fields.map fun h => headers.valueText h.value))

end Headers

end AlertRelay.Http

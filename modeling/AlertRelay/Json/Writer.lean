import AlertRelay.Json.Basic
import AlertRelay.Number.Shortest
import AlertRelay.Text.Quoted

/-!
# Writing JSON

## Main definitions

* `Json.write`: the text of a value, with a blank after each comma and colon, and with the
  characters outside ASCII as escapes or as they are.
-/

namespace AlertRelay.Json

open AlertRelay.Number

/-- Which characters of a string are escaped although JSON allows them. -/
inductive Escaping
  /-- Everything but the printable ASCII characters. -/
  | ascii
  /-- Nothing. -/
  | minimal
  deriving DecidableEq, Repr

/-- The escape of one UTF-16 unit. -/
def unitEscape (unit : Nat) : List Char := '\\' :: 'u' :: Text.hexDigits 4 unit

/-- The escape of a character by its code, with a pair of units beyond the basic plane. -/
def codeEscape (c : Char) : List Char :=
  let n := c.toNat
  if n < 0x10000 then unitEscape n
  else unitEscape (0xd800 + (n - 0x10000) / 0x400) ++ unitEscape (0xdc00 + (n - 0x10000) % 0x400)

/-- A character within a string. -/
def writeChar (escaping : Escaping) (c : Char) : List Char :=
  match c with
  | '"' => ['\\', '"']
  | '\\' => ['\\', '\\']
  | '\n' => ['\\', 'n']
  | '\r' => ['\\', 'r']
  | '\t' => ['\\', 't']
  | '\x0c' => ['\\', 'f']
  | '\x08' => ['\\', 'b']
  | _ =>
    if c.toNat < 0x20 ∨ (escaping = .ascii ∧ 0x7f ≤ c.toNat) then codeEscape c else [c]

/-- A string between its quotes. -/
def writeText (escaping : Escaping) (s : String) : String :=
  String.ofList ('"' :: s.toList.flatMap (writeChar escaping) ++ ['"'])

/-- A floating point number; the three that are no decimals have names. -/
def writeFloat : Binary64 → String
  | .nan => "NaN"
  | .infinite negative => if negative then "-Infinity" else "Infinity"
  | x => x.render

mutual

/-- The text of a value. -/
def write (escaping : Escaping) : Json → String
  | .null => "null"
  | .bool value => if value then "true" else "false"
  | .int value => value.repr
  | .float value => writeFloat value
  | .string value => writeText escaping value
  | .array items => "[" ++ writeItems escaping items ++ "]"
  | .object members => "\x7b" ++ writeMembers escaping members ++ "\x7d"

/-- The items of an array, each but the first after a comma. -/
def writeItems (escaping : Escaping) : List Json → String
  | [] => ""
  | [item] => write escaping item
  | item :: rest => write escaping item ++ ", " ++ writeItems escaping rest

/-- The members of an object, each but the first after a comma. -/
def writeMembers (escaping : Escaping) : List (String × Json) → String
  | [] => ""
  | [(key, value)] => writeText escaping key ++ ": " ++ write escaping value
  | (key, value) :: rest =>
    writeText escaping key ++ ": " ++ write escaping value ++ ", " ++ writeMembers escaping rest

end

end AlertRelay.Json

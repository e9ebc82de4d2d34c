import AlertRelay.Number.Digit
import AlertRelay.Text.Ascii
import AlertRelay.Text.Utf8

/-!
# Percent-encoding

Each part of a URL admits some of the printable ASCII characters as they are; every other
character is written as the percent-encoded octets of its UTF-8 form. A percent sign is admitted
everywhere, so that what is encoded already stays as it is.

## Main definitions

* `Part`: the parts of a URL.
* `admits`: whether a part takes a character as it is.
* `quote`, `unquote`: percent-encoding and its inverse.
-/

namespace AlertRelay.Url

open AlertRelay.Text

/-- The parts of a URL whose characters are encoded. -/
inductive Part
  | userinfo
  | host
  | path
  | query
  | fragment
  deriving DecidableEq, Repr

/-- The printable ASCII characters that a part does not admit. -/
def Part.refused : Part → List Char
  | .fragment => [' ', '"', '<', '>', '`']
  | .query => [' ', '"', '#', '<', '>']
  | .path => [' ', '"', '#', '<', '>', '?', '`', '\x7b', '\x7d']
  | .userinfo =>
    [' ', '"', '#', '<', '>', '?', '`', '\x7b', '\x7d', '/', ';', '=', '@', '[', '\\', ']', '^', '|']
  | .host => [' ', '#', '/', ':', '<', '>', '?', '@', '[', ']', '^']

/-- Whether a part takes a character as it is. -/
def Part.admits (part : Part) (c : Char) : Bool :=
  decide (0x20 ≤ c.toNat) && decide (c.toNat < 0x7f) && !part.refused.contains c

/-- A hexadecimal digit in upper case. -/
def hexDigit (n : Nat) : Char := Char.ofNat (if n < 10 then '0'.toNat + n else 'A'.toNat + (n - 10))

/-- The percent-encoding of an octet. -/
def quoteOctet (b : UInt8) : List Char :=
  ['%', hexDigit (b.toNat / 16), hexDigit (b.toNat % 16)]

/-- A character as a part shows it. -/
def quoteChar (part : Part) (c : Char) : List Char :=
  if part.admits c then [c] else (String.utf8EncodeChar c).flatMap quoteOctet

/-- A text as a part shows it. -/
def quote (part : Part) (s : List Char) : List Char := s.flatMap (quoteChar part)

/-- The octets that a text of ASCII characters encodes; a percent sign without two digits after it
stands for itself. -/
def unquoteOctets : List Char → Octets
  | '%' :: a :: b :: rest =>
    match Number.hexDigit? a, Number.hexDigit? b with
    | some high, some low => UInt8.ofNat (16 * high + low) :: unquoteOctets rest
    | _, _ => UInt8.ofNat '%'.toNat :: unquoteOctets (a :: b :: rest)
  | c :: rest => UInt8.ofNat c.toNat :: unquoteOctets rest
  | [] => []
termination_by s => s.length

/-- The text that percent-encoded ASCII characters stand for. -/
def unquote (s : String) : String := decode (unquoteOctets s.toList)

end AlertRelay.Url

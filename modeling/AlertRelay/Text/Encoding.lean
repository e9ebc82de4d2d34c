import AlertRelay.Text.Utf8

/-!
# Texts in an encoding that they show themselves

A document in octets is UTF-8, UTF-16 or UTF-32. Which of them shows in a byte order mark, or in
the zeros among the first octets, as a document begins with ASCII characters. Surrogates that are
alone count as the replacement character in all of them.

## Main definitions

* `decodeDocument?`: the text of the octets of a document.
-/

namespace AlertRelay.Text

/-- The order of the octets of a unit. -/
inductive ByteOrder
  | big
  | little
  deriving DecidableEq, Repr

/-- The encodings of a document; the marked ones begin with a byte order mark. -/
inductive Encoding
  | utf8
  | utf8Marked
  | utf16 (order : ByteOrder)
  | utf16Marked (order : ByteOrder)
  | utf32 (order : ByteOrder)
  | utf32Marked (order : ByteOrder)
  deriving DecidableEq, Repr

/-- The encoding that the first octets show. -/
def Encoding.detect (raw : Octets) : Encoding :=
  match raw.map UInt8.toNat |>.take 4 with
  | [0, 0, 0xfe, 0xff] => .utf32Marked .big
  | [0xff, 0xfe, 0, 0] => .utf32Marked .little
  | 0xfe :: 0xff :: _ => .utf16Marked .big
  | 0xff :: 0xfe :: _ => .utf16Marked .little
  | 0xef :: 0xbb :: 0xbf :: _ => .utf8Marked
  | [0, 0, _, _] => .utf32 .big
  | [0, _, _, _] => .utf16 .big
  | [_, 0, 0, 0] => .utf32 .little
  | [_, 0, _, _] => .utf16 .little
  | [0, _] => .utf16 .big
  | [_, 0] => .utf16 .little
  | _ => .utf8

/-- The number of octets in an order. -/
def ByteOrder.value (order : ByteOrder) (octets : List Nat) : Nat :=
  match order with
  | .big => octets.foldl (fun n b => n * 256 + b) 0
  | .little => octets.foldr (fun b n => n * 256 + b) 0

/-- The octets in which each surrogate that is encoded like a character gives way to the
replacement character. -/
def maskSurrogates : Octets → Octets
  | a :: b :: c :: rest =>
    if a = 0xed ∧ 0xa0 ≤ b ∧ b ≤ 0xbf ∧ 0x80 ≤ c ∧ c ≤ 0xbf then
      String.utf8EncodeChar replacementChar ++ maskSurrogates rest
    else
      a :: maskSurrogates (b :: c :: rest)
  | raw => raw

/-- The text of octets. -/
def decodeUtf8? (raw : Octets) : Option (List Char) := (decode? (maskSurrogates raw)).map String.toList

/-- The units of two octets that octets hold. -/
def unitsOf? (order : ByteOrder) : Octets → Option (List Nat)
  | a :: b :: rest => (unitsOf? order rest).map (order.value [a.toNat, b.toNat] :: ·)
  | [] => some []
  | [_] => none

/-- The text of units of two octets. -/
def joinUnits : List Nat → List Char
  | high :: low :: rest =>
    if isHighSurrogate high && isLowSurrogate low then joinSurrogates high low :: joinUnits rest
    else unitChar high :: joinUnits (low :: rest)
  | [unit] => [unitChar unit]
  | [] => []

/-- The text of units of two octets in an order. -/
def decodeUtf16? (order : ByteOrder) (raw : Octets) : Option (List Char) :=
  (unitsOf? order raw).map joinUnits

/-- The text of units of four octets, none of which may lie beyond the last code point. -/
def decodeUtf32? (order : ByteOrder) : Octets → Option (List Char)
  | [] => some []
  | a :: b :: c :: d :: rest =>
    let unit := order.value [a.toNat, b.toNat, c.toNat, d.toNat]
    if unit < 0x110000 then (decodeUtf32? order rest).map (unitChar unit :: ·) else none
  | _ => none

/-- The characters of a document in an encoding. -/
def Encoding.decode? (raw : Octets) : Encoding → Option (List Char)
  | .utf8 => decodeUtf8? raw
  | .utf8Marked => decodeUtf8? (raw.drop 3)
  | .utf16 order => decodeUtf16? order raw
  | .utf16Marked order => decodeUtf16? order (raw.drop 2)
  | .utf32 order => decodeUtf32? order raw
  | .utf32Marked order => decodeUtf32? order (raw.drop 4)

/-- The text of a document. -/
def decodeDocument? (raw : Octets) : Option String :=
  ((Encoding.detect raw).decode? raw).map String.ofList

end AlertRelay.Text

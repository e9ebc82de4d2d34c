import AlertRelay.Json.Reader
import AlertRelay.Proofs.Number.Digits
import AlertRelay.Proofs.Table

/-!
# The Grammar of JSON Texts

Which texts spell which values. A value is a word, a number, a text between quotes, or an array
or an object of values, each of which may have blanks around it. This is JSON with three more
words: `NaN`, `Infinity` and `-Infinity` are numbers.

Values are those of the reader. A number without a fraction and a power is an integer, of a
bounded number of digits, and every other one is the nearest floating point number. Two units
that are given by their codes spell one character when they are the halves of a pair, and a half
that is alone spells the replacement character. An object has the table that its members gather
into.

## Main definitions

* `Json.Spelling`, `Json.joined`: what stands between quotes, and the characters that it spells.
* `Json.Numeral`, `Json.Word`: numbers, and all values of one word.
* `Json.Spells`: **the grammar**.
-/

namespace AlertRelay.Json

open AlertRelay.Number AlertRelay.Text

/-! ### Texts -/

/-- A piece of what stands between quotes: a character, or a unit that is given by its code. -/
inductive Piece
  | char (c : Char)
  | unit (code : ℕ)

/-- How a piece is spelled. The quote, the backslash and the controls need an escape. -/
inductive Piece.Spelled : List Char → Piece → Prop
  | plain {c : Char} : c ≠ '"' → c ≠ '\\' → 0x20 ≤ c.toNat → Spelled [c] (.char c)
  | short {letter c : Char} : shortEscape? letter = some c → Spelled ['\\', letter] (.char c)
  | code {a b c d : Char} {code : ℕ} : hexUnit? a b c d = some code →
      Spelled ['\\', 'u', a, b, c, d] (.unit code)

/-- What stands between quotes, piece by piece. -/
inductive Spelling : List Char → List Piece → Prop
  | nil : Spelling [] []
  | cons {front rest : List Char} {piece : Piece} {pieces : List Piece} :
      piece.Spelled front → Spelling rest pieces → Spelling (front ++ rest) (piece :: pieces)

/-- The characters of pieces, where the two halves of a pair make one. -/
def joined : List Piece → List Char
  | [] => []
  | .char c :: rest => c :: joined rest
  | .unit high :: .unit low :: rest =>
    if isHighSurrogate high && isLowSurrogate low then joinSurrogates high low :: joined rest
    else unitChar high :: joined (.unit low :: rest)
  | .unit code :: rest => unitChar code :: joined rest

/-! ### Numbers -/

/-- The whole part of a number: a zero, or a row of digits that begins with another. -/
def IsWhole (s : List Char) : Prop := s = ['0'] ∨ IsRow s ∧ s.head? ≠ some '0'

/-- A fraction with its digits. -/
inductive Fraction : List Char → List Char → Prop
  | absent : Fraction [] []
  | digits {row : List Char} : IsRow row → Fraction ('.' :: row) row

/-- A power of ten. -/
inductive Power : List Char → Option ℤ → Prop
  | absent : Power [] none
  | digits {e : Char} {sign row : List Char} {negative : Bool} : e = 'e' ∨ e = 'E' →
      Sign sign negative → IsRow row →
      Power (e :: (sign ++ row)) (some (if negative then -(digitsValue row) else digitsValue row))

/-- A number behind its sign. -/
inductive Numeral (negative : Bool) : List Char → Json → Prop
  | int {whole : List Char} : IsWhole whole → whole.length ≤ digitLimit →
      Numeral negative whole (.int (if negative then -(digitsValue whole) else digitsValue whole))
  | float {whole fraction digits power : List Char} {exponent : Option ℤ} :
      IsWhole whole → Fraction fraction digits → Power power exponent → fraction ++ power ≠ [] →
      Numeral negative (whole ++ (fraction ++ power))
        (.float (.ofDecimal negative (digitsValue (whole ++ digits))
          (exponent.getD 0 - digits.length)))

/-- A value of one word. -/
inductive Word : List Char → Json → Prop
  | null : Word ['n', 'u', 'l', 'l'] .null
  | isTrue : Word ['t', 'r', 'u', 'e'] (.bool true)
  | isFalse : Word ['f', 'a', 'l', 's', 'e'] (.bool false)
  | nan : Word ['N', 'a', 'N'] (.float .nan)
  | infinity : Word ['I', 'n', 'f', 'i', 'n', 'i', 't', 'y'] (.float (.infinite false))
  | minusInfinity : Word ['-', 'I', 'n', 'f', 'i', 'n', 'i', 't', 'y'] (.float (.infinite true))
  | number {s : List Char} {value : Json} : Numeral false s value → Word s value
  | minus {s : List Char} {value : Json} : Numeral true s value → Word ('-' :: s) value

/-! ### Values -/

/-- What a text can spell: a value, bare or with blanks around it, or what stands between the
brackets of an array or of an object that is not empty. -/
inductive Phrase
  | value (value : Json)
  | slot (value : Json)
  | items (items : List Json)
  | member (key : String) (value : Json)
  | members (members : List (String × Json))

/-- **The grammar of JSON texts.** -/
inductive Spells : List Char → Phrase → Prop
  | word {s : List Char} {value : Json} : Word s value → Spells s (.value value)
  | text {body : List Char} {pieces : List Piece} : Spelling body pieces →
      Spells ('"' :: (body ++ ['"'])) (.value (.string (.ofList (joined pieces))))
  | emptyArray {s : List Char} : IsOf isSpace s → Spells ('[' :: (s ++ [']'])) (.value (.array []))
  | array {s : List Char} {items : List Json} : Spells s (.items items) →
      Spells ('[' :: (s ++ [']'])) (.value (.array items))
  | emptyObject {s : List Char} : IsOf isSpace s →
      Spells ('{' :: (s ++ ['}'])) (.value (.object []))
  | object {s : List Char} {members : List (String × Json)} {table : Table Json} :
      Spells s (.members members) → Table.Gathers members table →
      Spells ('{' :: (s ++ ['}'])) (.value (.object table))
  | slot {before s after : List Char} {value : Json} : IsOf isSpace before →
      Spells s (.value value) → IsOf isSpace after → Spells (before ++ (s ++ after)) (.slot value)
  | item {s : List Char} {value : Json} : Spells s (.slot value) → Spells s (.items [value])
  | moreItems {s rest : List Char} {value : Json} {items : List Json} :
      Spells s (.slot value) → Spells rest (.items items) →
      Spells (s ++ ',' :: rest) (.items (value :: items))
  | pair {before body after s : List Char} {pieces : List Piece} {value : Json} :
      IsOf isSpace before → Spelling body pieces → IsOf isSpace after → Spells s (.slot value) →
      Spells (before ++ '"' :: (body ++ '"' :: (after ++ ':' :: s)))
        (.member (.ofList (joined pieces)) value)
  | member {s : List Char} {key : String} {value : Json} : Spells s (.member key value) →
      Spells s (.members [(key, value)])
  | moreMembers {s rest : List Char} {key : String} {value : Json}
      {members : List (String × Json)} : Spells s (.member key value) →
      Spells rest (.members members) →
      Spells (s ++ ',' :: rest) (.members ((key, value) :: members))

end AlertRelay.Json

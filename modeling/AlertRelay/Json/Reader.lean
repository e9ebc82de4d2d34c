import AlertRelay.Json.Basic
import AlertRelay.Number.Numeral
import AlertRelay.Text.Surrogate

/-!
# Reading JSON

A reader of JSON texts that also takes `NaN`, `Infinity` and `-Infinity`, keeps the last value of
a repeated key, and says what is wrong at which position of a malformed text.

Two things are left out. Arrays and objects may be nested to any depth, where a reader with a
bounded stack gives up at some hundreds; and the surrogates that escapes spell alone all count as
one character, so that keys which differ in nothing else are the same key.

## Main definitions

* `Json.read`: the value of a text, or its fault.
* `Json.Fault`: a malformed text, or an integer of too many digits.
* `Json.Fault.describe`: the message, with line and column.
-/

namespace AlertRelay.Json

open AlertRelay.Number AlertRelay.Text

/-- What a malformed text lacks or has too much. -/
inductive Problem
  | value
  | propertyName
  | colon
  | comma
  | unterminated
  | control
  | escape
  | unicodeEscape
  | extra
  | byteOrderMark
  deriving DecidableEq, Repr

/-- The words for a problem. -/
def Problem.text : Problem → String
  | .value => "Expecting value"
  | .propertyName => "Expecting property name enclosed in double quotes"
  | .colon => "Expecting ':' delimiter"
  | .comma => "Expecting ',' delimiter"
  | .unterminated => "Unterminated string starting at"
  | .control => "Invalid control character at"
  | .escape => "Invalid \\escape"
  | .unicodeEscape => "Invalid \\uXXXX escape"
  | .extra => "Extra data"
  | .byteOrderMark => "Unexpected UTF-8 BOM (decode using utf-8-sig)"

/-- Why reading stopped: a problem in front of the characters that remain, or an integer whose
digits are more than can be converted. -/
inductive Stop
  | malformed (problem : Problem) (remaining : List Char)
  | longInteger (digits : Nat)
  deriving DecidableEq, Repr

/-- Why a text has no value. The position counts characters from the start of the text. -/
inductive Fault
  | malformed (problem : Problem) (position : Nat)
  | longInteger (digits : Nat)
  deriving DecidableEq, Repr

/-- Stops in front of the remaining characters. -/
def stop {α : Type} (problem : Problem) (remaining : List Char) : Except Stop α :=
  .error (.malformed problem remaining)

/-- Space, tab and the two ends of line are the only blanks. -/
def isSpace (c : Char) : Bool := c = ' ' || c = '\t' || c = '\n' || c = '\r'

/-- The characters from the first that is not blank. -/
def skipSpace (s : List Char) : List Char := s.dropWhile isSpace

/-- The number of four hexadecimal digits. -/
def hexUnit? (a b c d : Char) : Option Nat := do
  return ((← hexDigit? a) * 16 + (← hexDigit? b)) * 256 + (← hexDigit? c) * 16 + (← hexDigit? d)

/-- The character that a backslash and one letter stand for. -/
def shortEscape? : Char → Option Char
  | '"' => some '"'
  | '\\' => some '\\'
  | '/' => some '/'
  | 'b' => some '\x08'
  | 'f' => some '\x0c'
  | 'n' => some '\n'
  | 'r' => some '\r'
  | 't' => some '\t'
  | _ => none

/-- Puts the first half of a pair that found no second half in front of `done`. -/
def settle (pending : Option Nat) (done : List Char) : List Char :=
  if pending.isSome then replacementChar :: done else done

/-- Adds a unit that was given by its code: a second half completes the pair that is pending, a
first half becomes pending. -/
def addUnit (pending : Option Nat) (done : List Char) (unit : Nat) : Option Nat × List Char :=
  match pending with
  | some high =>
    if isLowSurrogate unit then (none, joinSurrogates high unit :: done)
    else if isHighSurrogate unit then (some unit, settle pending done)
    else (none, unitChar unit :: settle pending done)
  | none =>
    if isHighSurrogate unit then (some unit, done)
    else (none, unitChar unit :: done)

/-- Reads the rest of a string whose opening quote stands in front of `opening`; `done` holds the
reverse of the characters so far. An escape by code needs a further character after its digits. -/
def readText (opening : List Char) (pending : Option Nat) (done : List Char) :
    List Char → Except Stop (String × List Char)
  | [] => stop .unterminated opening
  | '"' :: rest => .ok (String.ofList (settle pending done).reverse, rest)
  | ['\\'] => stop .unterminated opening
  | '\\' :: 'u' :: a :: b :: c :: d :: rest =>
    match hexUnit? a b c d with
    | some unit =>
      if rest = [] then
        stop .unicodeEscape ['u', a, b, c, d]
      else
        let next := addUnit pending done unit
        readText opening next.1 next.2 rest
    | none => stop .unicodeEscape ('u' :: a :: b :: c :: d :: rest)
  | '\\' :: c :: rest =>
    match shortEscape? c with
    | some e => readText opening none (e :: settle pending done) rest
    | none => if c = 'u' then stop .unicodeEscape (c :: rest) else stop .escape ('\\' :: c :: rest)
  | c :: rest =>
    if c.toNat < 0x20 then stop .control (c :: rest)
    else readText opening none (c :: settle pending done) rest

/-- The whole part of a number: a zero, or digits that begin with another. -/
def splitWhole : List Char → Option (List Char × List Char)
  | '0' :: rest => some (['0'], rest)
  | s => match splitDigits s with
    | ([], _) => none
    | parts => some parts

/-- A point with digits after it; a point without is not part of the number. -/
def splitPoint (s : List Char) : List Char × List Char :=
  match s with
  | '.' :: rest => match splitDigits rest with
    | ([], _) => ([], s)
    | parts => parts
  | _ => ([], s)

/-- A power of ten; an `e` without digits after it is not part of the number. -/
def splitPower (s : List Char) : Option Int × List Char :=
  match s with
  | c :: rest =>
    if c = 'e' ∨ c = 'E' then
      let (negative, body) := splitSign rest
      match splitDigits body with
      | ([], _) => (none, s)
      | (digits, after) =>
        (some (if negative then -(digitsValue digits) else digitsValue digits), after)
    else
      (none, s)
  | [] => (none, s)

/-- Reads a number, in front of whose sign the characters `start` stand. -/
def readNumber (start : List Char) (negative : Bool) (s : List Char) : Except Stop (Json × List Char) :=
  match splitWhole s with
  | none => stop .value start
  | some (whole, afterWhole) =>
    match splitPoint afterWhole with
    | (fraction, afterPoint) =>
      match splitPower afterPoint with
      | (power, rest) =>
        if fraction = [] ∧ power = none then
          if digitLimit < whole.length then
            .error (.longInteger whole.length)
          else
            let n := digitsValue whole
            .ok (.int (if negative then -n else n), rest)
        else
          let exponent := power.getD 0 - fraction.length
          .ok (.float (.ofDecimal negative (digitsValue (whole ++ fraction)) exponent), rest)

/-- Reads a value that is one word, or a number. -/
def readWord : List Char → Except Stop (Json × List Char)
  | 'n' :: 'u' :: 'l' :: 'l' :: rest => .ok (.null, rest)
  | 't' :: 'r' :: 'u' :: 'e' :: rest => .ok (.bool true, rest)
  | 'f' :: 'a' :: 'l' :: 's' :: 'e' :: rest => .ok (.bool false, rest)
  | 'N' :: 'a' :: 'N' :: rest => .ok (.float .nan, rest)
  | 'I' :: 'n' :: 'f' :: 'i' :: 'n' :: 'i' :: 't' :: 'y' :: rest =>
    .ok (.float (.infinite false), rest)
  | '-' :: 'I' :: 'n' :: 'f' :: 'i' :: 'n' :: 'i' :: 't' :: 'y' :: rest =>
    .ok (.float (.infinite true), rest)
  | '-' :: rest => readNumber ('-' :: rest) true rest
  | s => readNumber s false s

mutual

/-- Reads the value that the text begins with. The fuel bounds the depth of the calls. -/
def readValue (fuel : Nat) (s : List Char) : Except Stop (Json × List Char) :=
  match fuel with
  | 0 => stop .value s
  | fuel + 1 =>
    match s with
    | '"' :: rest => do
      let (text, after) ← readText s none [] rest
      return (.string text, after)
    | '{' :: rest =>
      match skipSpace rest with
      | '}' :: after => .ok (.object [], after)
      | start => do
        let (members, after) ← readMembers fuel [] start
        return (.object members, after)
    | '[' :: rest =>
      match skipSpace rest with
      | ']' :: after => .ok (.array [], after)
      | start => do
        let (items, after) ← readItems fuel [] start
        return (.array items, after)
    | _ => readWord s

/-- Reads the members of an object from the next key on. -/
def readMembers (fuel : Nat) (done : List (String × Json)) (s : List Char) :
    Except Stop (List (String × Json) × List Char) :=
  match fuel with
  | 0 => stop .value s
  | fuel + 1 =>
    match s with
    | '"' :: rest => do
      let (key, afterKey) ← readText s none [] rest
      match skipSpace afterKey with
      | ':' :: afterColon =>
        let (value, afterValue) ← readValue fuel (skipSpace afterColon)
        let members := Table.put key value done
        match skipSpace afterValue with
        | '}' :: after => return (members, after)
        | ',' :: after => readMembers fuel members (skipSpace after)
        | other => stop .comma other
      | other => stop .colon other
    | _ => stop .propertyName s

/-- Reads the items of an array from the next one on; `done` holds the reverse of those before. -/
def readItems (fuel : Nat) (done : List Json) (s : List Char) : Except Stop (List Json × List Char) :=
  match fuel with
  | 0 => stop .value s
  | fuel + 1 => do
    let (value, afterValue) ← readValue fuel s
    match skipSpace afterValue with
    | ']' :: after => return ((value :: done).reverse, after)
    | ',' :: after => readItems fuel (value :: done) (skipSpace after)
    | other => stop .comma other

end

/-- Reads one value with nothing but blanks around it. -/
def readWhole (s : List Char) : Except Stop Json :=
  match s with
  | c :: rest =>
    if c = Char.ofNat 0xfeff then stop .byteOrderMark (c :: rest) else go s
  | [] => go s
where
  go (s : List Char) : Except Stop Json := do
    let (value, after) ← readValue (2 * s.length + 2) (skipSpace s)
    match skipSpace after with
    | [] => return value
    | other => stop .extra other

/-- The value of a JSON text. -/
def read (s : String) : Except Fault Json :=
  let chars := s.toList
  match readWhole chars with
  | .ok value => .ok value
  | .error (.malformed problem remaining) =>
    .error (.malformed problem (chars.length - remaining.length))
  | .error (.longInteger digits) => .error (.longInteger digits)

/-- The message of a fault in a text: a problem with line, column and position, or the limit on
digits that the text exceeds. -/
def Fault.describe (text : String) : Fault → String
  | .malformed problem position =>
    let before := text.toList.take position
    let line := (before.filter (· = '\n')).length + 1
    let column := (before.reverse.takeWhile (· ≠ '\n')).length + 1
    s!"{problem.text}: line {line} column {column} (char {position})"
  | .longInteger digits =>
    s!"Exceeds the limit ({digitLimit} digits) for integer string conversion: " ++
      s!"value has {digits} digits; use sys.set_int_max_str_digits() to increase the limit"

end AlertRelay.Json

import AlertRelay.Text.PrintTable

/-!
# Quoted texts

How a message shows a text that it quotes: between quote marks, on one line, with everything
unprintable escaped.

## Main definitions

* `quoted`: the quoted form of a text.
* `codeEscape`: the escape that names a character by its code point.
-/

namespace AlertRelay.Text

/-- The hexadecimal digits of `n`, with zeros in front if they are fewer than `width`. -/
def hexDigits (width n : Nat) : List Char :=
  let digits := Nat.toDigits 16 n
  List.replicate (width - digits.length) '0' ++ digits

/-- `\xNN`, `\uNNNN` or `\UNNNNNNNN`, the shortest of them that holds the code point. -/
def codeEscape (c : Char) : List Char :=
  let n := c.toNat
  if n < 0x100 then '\\' :: 'x' :: hexDigits 2 n
  else if n < 0x10000 then '\\' :: 'u' :: hexDigits 4 n
  else '\\' :: 'U' :: hexDigits 8 n

/-- Whether a quoted text shows the character as it is. -/
def isPrintable (c : Char) : Bool := !inRanges unprintableRanges c.toNat

/-- Single quote marks, unless the text has one of them and no double one. -/
def quoteMark (s : List Char) : Char :=
  if s.contains '\'' && !s.contains '"' then '"' else '\''

/-- A character within quote marks. -/
def escapeChar (mark c : Char) : List Char :=
  if c = mark ∨ c = '\\' then ['\\', c]
  else if c = '\n' then ['\\', 'n']
  else if c = '\r' then ['\\', 'r']
  else if c = '\t' then ['\\', 't']
  else if isPrintable c then [c]
  else codeEscape c

/-- The text between quote marks, on one line. -/
def quoted (s : String) : String :=
  let mark := quoteMark s.toList
  String.ofList (mark :: s.toList.flatMap (escapeChar mark) ++ [mark])

end AlertRelay.Text

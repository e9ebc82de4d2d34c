import AlertRelay.Text.Quoted

/-!
# Texts that must be ASCII

## Main definitions

* `isAscii`: whether a text has ASCII characters only.
* `NonAscii`: where a text first leaves ASCII, with its message.
-/

namespace AlertRelay.Text

/-- Whether a character is one of the 128 of ASCII. -/
def isAsciiChar (c : Char) : Bool := decide (c.toNat < 0x80)

/-- Whether all characters of a text are ASCII. -/
def isAscii (s : String) : Bool := s.toList.all isAsciiChar

/-- The first run of characters outside ASCII in a text: its first character, the position of
that character, and the number of further characters of the run. -/
structure NonAscii where
  first : Char
  start : Nat
  more : Nat
  deriving DecidableEq, Repr

/-- The first run outside ASCII, if there is one. -/
def NonAscii.find? (s : String) : Option NonAscii :=
  let chars := s.toList
  match chars.dropWhile isAsciiChar with
  | [] => none
  | c :: rest =>
    some ⟨c, (chars.takeWhile isAsciiChar).length, (rest.takeWhile (!isAsciiChar ·)).length⟩

/-- What is wrong, with the place as a position or as a range of positions. -/
def NonAscii.message (f : NonAscii) : String :=
  let place :=
    if f.more = 0 then
      s!"character '{String.ofList (codeEscape f.first)}' in position {f.start}"
    else
      s!"characters in position {f.start}-{f.start + f.more}"
  "'ascii' codec can't encode " ++ place ++ ": ordinal not in range(128)"

end AlertRelay.Text

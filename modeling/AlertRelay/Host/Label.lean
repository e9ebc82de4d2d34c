import AlertRelay.Host.LabelTable
import AlertRelay.Host.Punycode
import AlertRelay.Text.Ascii
import AlertRelay.Text.Case
import AlertRelay.Text.Compose

/-!
# Internationalised host names

A host name is a row of labels. A label with characters outside ASCII must follow the rules of
IDNA 2008 and travels in Punycode behind `xn--`.

## Main definitions

* `checkLabel`: the rules for a label.
* `encodeName`: a host name with its labels in ASCII.
* `decodeName`: a host name with its labels as they are read.
* `LabelFault`: why a name is refused.
-/

namespace AlertRelay.Host

open AlertRelay.Text

/-- Which rule about the direction of writing a label breaks. -/
inductive DirectionFault
  | first (label : String)
  | rightToLeft (position : Nat)
  | leftToRight (position : Nat)
  | mixedNumbers
  | ending
  deriving DecidableEq, Repr

/-- Why a host name or one of its labels is refused. Positions count from one. -/
inductive LabelFault
  | emptyDomain
  | longDomain
  | emptyLabel
  | longLabel
  | notComposed
  | innerHyphens
  | outerHyphen
  | leadingMark
  | joiner (code position : Nat) (label : String)
  | context (code position : Nat) (label : String)
  | character (code position : Nat) (label : String)
  | direction (fault : DirectionFault)
  | noContent
  | trailingHyphen
  | undecodable
  deriving DecidableEq, Repr

/-- A code point as messages name it. -/
def codeName (n : Nat) : String :=
  let digits := (Nat.toDigits 16 n).flatMap upperChar
  String.ofList ('U' :: '+' :: List.replicate (4 - digits.length) '0' ++ digits)

/-- The message of a fault of direction. -/
def DirectionFault.message : DirectionFault → String
  | .first label =>
    "First codepoint in label " ++ quoted label ++ " must be directionality L, R or AL"
  | .rightToLeft position =>
    s!"Invalid direction for codepoint at position {position} in a right-to-left label"
  | .leftToRight position =>
    s!"Invalid direction for codepoint at position {position} in a left-to-right label"
  | .mixedNumbers => "Can not mix numeral types in a right-to-left label"
  | .ending => "Label ends with illegal codepoint directionality"

/-- The message of a fault. -/
def LabelFault.message : LabelFault → String
  | .emptyDomain => "Empty domain"
  | .longDomain => "Domain too long"
  | .emptyLabel => "Empty Label"
  | .longLabel => "Label too long"
  | .notComposed => "Label must be in Normalization Form C"
  | .innerHyphens => "Label has disallowed hyphens in 3rd and 4th position"
  | .outerHyphen => "Label must not start or end with a hyphen"
  | .leadingMark => "Label begins with an illegal combining character"
  | .joiner code position label =>
    "Unknown codepoint adjacent to joiner " ++ codeName code ++
      s!" at position {position} in " ++ quoted label
  | .context code position label =>
    "Codepoint " ++ codeName code ++ s!" not allowed at position {position} in " ++ quoted label
  | .character code position label =>
    "Codepoint " ++ codeName code ++ s!" at position {position} of " ++ quoted label ++
      " not allowed"
  | .direction fault => fault.message
  | .noContent => "Malformed A-label, no Punycode eligible content found"
  | .trailingHyphen => "A-label must not end with a hyphen"
  | .undecodable => "Invalid A-label"

/-- The classes of characters that the rule about direction distinguishes. -/
inductive Direction
  | left
  | right
  | arabic
  | arabicNumber
  | europeanNumber
  | neutral
  | mark
  deriving DecidableEq, Repr

/-- The class of a label character. -/
def directionOf (c : Char) : Direction :=
  let n := c.toNat
  if inRanges rightToLeftRanges n then .right
  else if inRanges arabicLetterRanges n then .arabic
  else if inRanges arabicNumberRanges n then .arabicNumber
  else if inRanges europeanNumberRanges n then .europeanNumber
  else if inRanges nonspacingMarkRanges n then .mark
  else if inRanges europeanSeparatorRanges n || inRanges otherNeutralRanges n ||
      inRanges boundaryNeutralRanges n then .neutral
  else .left

/-- The first character that a direction does not admit, by its position. -/
def firstOutside (allowed : Direction → Bool) (directions : List Direction) : Option Nat :=
  (directions.zipIdx.find? fun p => !allowed p.1).map (·.2 + 1)

/-- The rule about the direction of writing, for labels with a character that runs from right to
left. -/
def checkDirection (label : List Char) : Except LabelFault Unit := do
  let directions := label.map directionOf
  let runsLeft (d : Direction) : Bool := d = .right || d = .arabic || d = .arabicNumber
  if directions.any runsLeft then
    let last := directions.reverse.dropWhile (· = .mark) |>.head?
    match directions.head? with
    | some .left =>
      match firstOutside (!runsLeft ·) directions with
      | some position => throw (.direction (.leftToRight position))
      | none => return
    | some .right | some .arabic =>
      let mixed := directions.contains .arabicNumber && directions.contains .europeanNumber
      match firstOutside (· ≠ .left) directions with
      | some position =>
        let before := directions.take (position - 1)
        if before.contains .arabicNumber && before.contains .europeanNumber then
          throw (.direction .mixedNumbers)
        throw (.direction (.rightToLeft position))
      | none =>
        if mixed then throw (.direction .mixedNumbers)
        unless last.any (fun d => runsLeft d || d = .europeanNumber) do
          throw (.direction .ending)
    | _ => throw (.direction (.first (String.ofList label)))

/-- Whether a character is of the class that suppresses the vowel of the letter before it. -/
def isVirama (c : Char) : Bool := inRanges viramaRanges c.toNat

/-- The first character, marks that joining passes over left aside, connects to this side. -/
def connects (side : List (Nat × Nat)) (chars : List Char) : Bool :=
  (chars.dropWhile fun c => inRanges joinsTransparentlyRanges c.toNat).head?.any fun c =>
    inRanges side c.toNat || inRanges joinsBothRanges c.toNat

/-- Whether a joiner may stand after `before`, nearest character first, and before `after`. -/
def joinerOk (c : Char) (before after : List Char) : Bool :=
  before.head?.any isVirama ||
    (c.toNat = 0x200c && connects joinsLeftRanges before && connects joinsRightRanges after)

/-- Characters that are valid in some contexts only. -/
def isContextual (n : Nat) : Bool :=
  [0xb7, 0x375, 0x5f3, 0x5f4, 0x30fb].contains n ||
    inRanges [(0x660, 0x669), (0x6f0, 0x6f9)] n

/-- Whether a character may stand after `before`, nearest character first, and before `after`. -/
def contextOk (c : Char) (before after : List Char) : Bool :=
  let n := c.toNat
  let others := before ++ after
  if n = 0xb7 then before.head? = some 'l' && after.head? = some 'l'
  else if n = 0x375 then after.head?.any (inRanges greekRanges ·.toNat)
  else if n = 0x5f3 ∨ n = 0x5f4 then before.head?.any (inRanges hebrewRanges ·.toNat)
  else if n = 0x30fb then
    others.any fun d =>
      d.toNat ≠ 0x30fb && (inRanges hiraganaRanges d.toNat || inRanges katakanaRanges d.toNat ||
        inRanges hanRanges d.toNat)
  else if n < 0x6f0 then !others.any (inRanges [(0x6f0, 0x6f9)] ·.toNat)
  else !others.any (inRanges [(0x660, 0x669)] ·.toNat)

/-- Checks the characters of a label from one on; those before it are given nearest first. -/
def checkCharacters (label : String) (before : List Char) : List Char → Except LabelFault Unit
  | [] => .ok ()
  | c :: after =>
    let n := c.toNat
    let position := before.length + 1
    if inRanges labelRanges n then checkCharacters label (c :: before) after
    else if n = 0x200c ∨ n = 0x200d then
      if joinerOk c before after then checkCharacters label (c :: before) after
      else .error (.joiner n position label)
    else if isContextual n then
      if contextOk c before after then checkCharacters label (c :: before) after
      else .error (.context n position label)
    else .error (.character n position label)

/-- The longest name, its final point included. -/
def nameLimit : Nat := 254

/-- The longest label. -/
def labelLimit : Nat := 63

/-- The rules for a label as it is read. -/
def checkLabel (label : List Char) : Except LabelFault Unit := do
  if label = [] then throw .emptyLabel
  if nameLimit < label.length then throw .longLabel
  unless isComposed label do throw .notComposed
  if (label.drop 2).take 2 = ['-', '-'] then throw .innerHyphens
  if label.head? = some '-' ∨ label.getLast? = some '-' then throw .outerHyphen
  if label.head?.any (inRanges markRanges ·.toNat) then throw .leadingMark
  checkCharacters (String.ofList label) [] label
  checkDirection label

/-- What stands in front of an encoded label. -/
def encodedMark : List Char := "xn--".toList

/-- A label as it is read. -/
def readLabel (label : List Char) : Except LabelFault (List Char) := do
  if label.all isAsciiChar then
    let small := label.map asciiLowerChar
    if encodedMark.isPrefixOf small then
      let content := small.drop encodedMark.length
      if content = [] then throw .noContent
      if content.getLast? = some '-' then throw .trailingHyphen
      match decodePunycode? content with
      | some text =>
        checkLabel text
        return text
      | none => throw .undecodable
    else
      checkLabel small
      return small
  else
    checkLabel label
    return label

/-- A label in ASCII. -/
def encodeLabel (label : List Char) : Except LabelFault (List Char) := do
  if label.all isAsciiChar then
    let _ ← readLabel label
    if labelLimit < label.length then throw .longLabel
    return label
  else
    checkLabel label
    let encoded := encodedMark ++ encodePunycode label
    if labelLimit < encoded.length then throw .longLabel
    return encoded

/-- The full stop and the characters that stand for it. -/
def isPoint (c : Char) : Bool := [0x2e, 0x3002, 0xff0e, 0xff61].contains c.toNat

/-- Changes every label of a name; a point at the end stays. -/
def mapLabels (change : List Char → Except LabelFault (List Char)) (name : List Char) :
    Except LabelFault (List Char) := do
  if nameLimit < name.length then throw .longDomain
  if name = [] then throw .emptyDomain
  let labels := name.splitOnP isPoint
  let isAbsolute := labels.getLast? = some []
  let changed ← (if isAbsolute then labels.dropLast else labels).mapM change
  return ['.'].intercalate (if isAbsolute then changed ++ [[]] else changed)

/-- A name with its labels in ASCII. -/
def encodeName (name : List Char) : Except LabelFault (List Char) := do
  let encoded ← mapLabels encodeLabel name
  let limit := if encoded.getLast? = some '.' then nameLimit else nameLimit - 1
  if limit < encoded.length then throw .longDomain
  return encoded

/-- A name with its labels as they are read. -/
def decodeName (name : List Char) : Except LabelFault (List Char) := mapLabels readLabel name

end AlertRelay.Host

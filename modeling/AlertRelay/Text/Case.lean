import AlertRelay.Text.CaseTable

/-!
# Letter case

Full case mapping of texts: a character may become several, and a capital sigma becomes the
final small sigma at the end of a word.

## Main definitions

* `lower`, `upper`: the case mappings of texts.
* `asciiLower`: the mapping that moves the letters A to Z only.
-/

namespace AlertRelay.Text

/-- The first mapping that a list of runs gives for a code point. -/
def shiftBy (runs : List CaseRun) (n : Nat) : Option Nat := runs.findSome? (·.image? n)

/-- The lower case of one character, its neighbours left aside. -/
def lowerChar (c : Char) : List Char :=
  if c.toNat = 0x130 then
    ['i', Char.ofNat 0x307]
  else
    match shiftBy lowerRuns c.toNat with
    | some n => [Char.ofNat n]
    | none => [c]

/-- The upper case of one character. -/
def upperChar (c : Char) : List Char :=
  match upperExpansions.lookup c.toNat with
  | some ns => ns.map Char.ofNat
  | none =>
    match shiftBy upperRuns c.toNat with
    | some n => [Char.ofNat n]
    | none => [c]

/-- Characters that are passed over when the neighbours of a sigma are looked up. -/
def isCaseIgnorable (c : Char) : Bool := inRanges caseIgnorableRanges c.toNat

/-- Characters with case. -/
def isCased (c : Char) : Bool := inRanges casedRanges c.toNat

/-- A sigma ends a word when a cased character stands before it and none after it, with the
ignorable characters passed over. The text before the sigma is given nearest character first. -/
def sigmaEndsWord (before after : List Char) : Bool :=
  (before.dropWhile isCaseIgnorable).head?.any isCased &&
    !(after.dropWhile isCaseIgnorable).head?.any isCased

/-- The lower case of a character between its neighbours. -/
def lowerAt (before : List Char) (c : Char) (after : List Char) : List Char :=
  if c = 'Σ' then
    if sigmaEndsWord before after then ['ς'] else ['σ']
  else
    lowerChar c

/-- The lower case of `s` after `before`, put behind the reverse of `done`. -/
def lowerFrom (done before : List Char) : List Char → List Char
  | [] => done.reverse
  | c :: after => lowerFrom ((lowerAt before c after).reverse ++ done) (c :: before) after

/-- The text in lower case. -/
def lower (s : String) : String := String.ofList (lowerFrom [] [] s.toList)

/-- The text in upper case. -/
def upper (s : String) : String := String.ofList (s.toList.flatMap upperChar)

/-- The lower case of an ASCII letter; every other character stays. -/
def asciiLowerChar (c : Char) : Char :=
  if 'A' ≤ c ∧ c ≤ 'Z' then Char.ofNat (c.toNat + 32) else c

/-- The text with its ASCII letters in lower case. -/
def asciiLower (s : String) : String := String.ofList (s.toList.map asciiLowerChar)

end AlertRelay.Text

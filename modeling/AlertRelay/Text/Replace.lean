/-!
# Literal replacement

Every occurrence of one text within another is replaced, from the left and without overlap.

## Main definitions

* `replaceChars`, `replace`: the replacement, on lists of characters and on texts.

## Main results

* `replaceFrom_eq`: the text that is already done stays in front.
-/

namespace AlertRelay.Text

/-- Replaces the occurrences of `old` in what remains, after `skip` characters that the last
occurrence still covers; `done` holds the reverse of what is finished. -/
def replaceFrom (old new done : List Char) : Nat → List Char → List Char
  | _, [] => done.reverse
  | skip + 1, _ :: rest => replaceFrom old new done skip rest
  | 0, c :: rest =>
    if old.isPrefixOf (c :: rest) then
      replaceFrom old new (new.reverse ++ done) (old.length - 1) rest
    else
      replaceFrom old new (c :: done) 0 rest

/-- Replaces every occurrence of `old` by `new`. The empty text occurs before every character
and at the end. -/
def replaceChars (old new s : List Char) : List Char :=
  if old = [] then
    new ++ s.flatMap (· :: new)
  else
    replaceFrom old new [] 0 s

/-- Replaces every occurrence of the text `old` by the text `new`. -/
def replace (old new s : String) : String :=
  String.ofList (replaceChars old.toList new.toList s.toList)

/-- What is finished is never looked at again. -/
theorem replaceFrom_eq (old new done : List Char) (skip : Nat) (s : List Char) :
    replaceFrom old new done skip s = done.reverse ++ replaceFrom old new [] skip s := by
  induction s generalizing done skip with
  | nil => simp [replaceFrom]
  | cons c rest ih =>
    cases skip with
    | succ k => simp only [replaceFrom]; exact ih done k
    | zero =>
      by_cases h : old.isPrefixOf (c :: rest)
      · simp only [replaceFrom, h, if_true]
        rw [ih, ih (new.reverse ++ [])]
        simp
      · simp only [replaceFrom, h]
        rw [if_neg (by simp), if_neg (by simp), ih, ih [c]]
        simp

end AlertRelay.Text

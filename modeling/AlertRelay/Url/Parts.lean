/-!
# The parts of a URL text

Where the parts of a text lie that is meant as a URL, before anything is checked or encoded.

## Main definitions

* `Parts.split`: scheme, authority, path, query and fragment.
* `splitAuthority`: user, host and port.
-/

namespace AlertRelay.Url

/-- The parts of a text, without the marks around them. -/
structure Parts where
  scheme : List Char := []
  authority : List Char := []
  path : List Char := []
  query : Option (List Char) := none
  fragment : Option (List Char) := none
  deriving DecidableEq, Repr

/-- Letters of ASCII. -/
def isLetter (c : Char) : Bool :=
  (decide ('a' ≤ c) && decide (c ≤ 'z')) || (decide ('A' ≤ c) && decide (c ≤ 'Z'))

/-- Characters that a scheme may have after its first one. -/
def isSchemeChar (c : Char) : Bool :=
  isLetter c || (decide ('0' ≤ c) && decide (c ≤ '9')) || c = '+' || c = '.' || c = '-'

/-- Splits off a scheme and its colon. A colon at the start stands after an empty scheme. -/
def splitScheme (s : List Char) : List Char × List Char :=
  match s with
  | [] => ([], s)
  | c :: _ =>
    if c = ':' then ([], s.drop 1)
    else if isLetter c then
      match s.dropWhile isSchemeChar with
      | ':' :: rest => (s.takeWhile isSchemeChar, rest)
      | _ => ([], s)
    else ([], s)

/-- Characters that end an authority. -/
def endsAuthority (c : Char) : Bool := c = '/' || c = '?' || c = '#'

/-- Splits off two slashes and the authority after them. -/
def splitSlashes (s : List Char) : List Char × List Char :=
  match s with
  | '/' :: '/' :: rest => (rest.takeWhile (!endsAuthority ·), rest.dropWhile (!endsAuthority ·))
  | _ => ([], s)

/-- Splits off what stands after the first of a mark. -/
def splitMark (mark : Char) (s : List Char) : List Char × Option (List Char) :=
  (s.takeWhile (· ≠ mark),
    match s.dropWhile (· ≠ mark) with
    | [] => none
    | _ :: rest => some rest)

/-- The parts of a text. -/
def Parts.split (s : List Char) : Parts :=
  let (scheme, afterScheme) := splitScheme s
  let (authority, afterAuthority) := splitSlashes afterScheme
  let (front, fragment) := splitMark '#' afterAuthority
  let (path, query) := splitMark '?' front
  { scheme, authority, path, query, fragment }

/-- The user part up to the last `@`, and what follows it. -/
def splitUser (s : List Char) : List Char × List Char :=
  let after := (s.reverse.takeWhile (· ≠ '@')).reverse
  (s.take (s.length - after.length - 1), after)

/-- The host, which goes up to the last bracket if it begins with one and else up to a colon, and
the port after a colon that may be left out. -/
def splitHost (s : List Char) : List Char × List Char :=
  let closing := (s.reverse.dropWhile (· ≠ ']')).reverse
  let host := if s.head? = some '[' ∧ closing ≠ [] then closing else s.takeWhile (· ≠ ':')
  let rest := s.drop host.length
  (host, if rest.head? = some ':' then rest.drop 1 else rest)

/-- The user, the host and the port of an authority. -/
def splitAuthority (s : List Char) : List Char × List Char × List Char :=
  let (user, rest) := splitUser s
  (user, splitHost rest)

end AlertRelay.Url

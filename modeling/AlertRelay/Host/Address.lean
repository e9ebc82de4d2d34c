import AlertRelay.Number.Digit

/-!
# Host addresses

## Main definitions

* `isIpv4`, `isIpv6`: the two forms of numeric addresses.
* `looksDotted`: texts that can only be meant as four numbers, and so must be an address.
-/

namespace AlertRelay.Host

open AlertRelay.Number

/-- One of the four numbers of an address: up to three digits, no superfluous zero, at most
255. -/
def isOctet (s : List Char) : Bool :=
  s ≠ [] && s.all isAsciiDigit && decide (s.length ≤ 3) && (s = ['0'] || s.head? ≠ some '0') &&
    decide (digitsValue s ≤ 255)

/-- Four numbers with points between them. -/
def isIpv4 (s : List Char) : Bool :=
  let parts := s.splitOn '.'
  parts.length = 4 && parts.all isOctet

/-- Whether four rows of digits can be seen in a text with any three characters between them.
Whatever is no digit must be one of the three, and a row of digits can give up every second of
its inner digits. -/
def looksDotted (s : List Char) : Bool :=
  let rows := s.splitOnP (!isAsciiDigit ·)
  let separators := rows.length - 1
  let spare := rows.foldl (fun spare row => spare + (row.length - 1) / 2) 0
  rows.all (· ≠ []) && decide (separators ≤ 3) && decide (3 ≤ separators + spare)

/-- Up to four hexadecimal digits. -/
def isHextet (s : List Char) : Bool :=
  s ≠ [] && decide (s.length ≤ 4) && s.all fun c => (hexDigit? c).isSome

/-- The groups of an address with colons, where four numbers at the end count as two groups. -/
def hextetGroups (s : List Char) : Option (List (List Char)) :=
  let groups := s.splitOn ':'
  let last := groups.getLastD []
  if groups.length < 3 then none
  else if last.contains '.' then
    if isIpv4 last then some (groups.dropLast ++ [['0'], ['0']]) else none
  else some groups

/-- The groups on one side of a gap; a gap at the end of the address leaves one empty group. -/
def besideGap (groups : List (List Char)) : List (List Char) :=
  if groups = [[]] then [] else groups

/-- Eight groups, or fewer around one gap that stands for groups of zeros. -/
def isIpv6Body (s : List Char) : Bool :=
  match hextetGroups s with
  | none => false
  | some groups =>
    let inner := (groups.drop 1).dropLast
    if groups.length ≤ 9 then
      match inner.count [] with
      | 0 => groups.length = 8 && groups.all isHextet
      | 1 =>
        let gap := (inner.takeWhile (· ≠ [])).length + 1
        let before := besideGap (groups.take gap)
        let after := besideGap (groups.drop (gap + 1))
        decide (before.length + after.length ≤ 7) && before.all isHextet && after.all isHextet
      | _ => false
    else
      false

/-- An address with colons, with an optional zone after a percent sign. -/
def isIpv6 (s : List Char) : Bool :=
  let body := s.takeWhile (· ≠ '%')
  let zoneOk :=
    match s.dropWhile (· ≠ '%') with
    | [] => true
    | _ :: zone => zone ≠ [] && !zone.contains '%'
  zoneOk && !s.contains '/' && isIpv6Body body

end AlertRelay.Host

import AlertRelay.Host.Address
import AlertRelay.Number.Numeral
import AlertRelay.Url.Basic
import AlertRelay.Url.Parts

/-!
# Reading URLs

## Main definitions

* `Url.read`: the URL that a text stands for, or its first fault.
* `Url.assemble`: the URL of parts that were split already.
* `Url.withHost`, `Url.withFragment`: a URL with one part replaced.
-/

namespace AlertRelay.Url

open AlertRelay.Text AlertRelay.Host AlertRelay.Number

/-- The most characters that a URL may have. -/
def lengthLimit : Nat := 65536

/-- The controls of ASCII. -/
def isControl (c : Char) : Bool := decide (c.toNat < 0x20) || c.toNat = 0x7f

/-- The first control of a text, with its position. -/
def findControl? (s : List Char) : Option (Char × Nat) :=
  match s.dropWhile (!isControl ·) with
  | [] => none
  | c :: _ => some (c, (s.takeWhile (!isControl ·)).length)

/-- A host as it travels: an address, a name of ASCII characters, or an encoded name. -/
def encodeHost (host : List Char) : Except Fault (List Char) :=
  if host = [] then .ok []
  else if looksDotted host then
    if isIpv4 host then .ok host else .error (.ipv4 (String.ofList host))
  else if host.head? = some '[' ∧ host.getLast? = some ']' then
    let address := (host.drop 1).dropLast
    if isIpv6 address then .ok address else .error (.ipv6 (String.ofList host))
  else if host.all isAsciiChar then
    .ok (quote .host (host.map asciiLowerChar))
  else
    match encodeName (lower (String.ofList host)).toList with
    | .ok name => .ok name
    | .error _ => .error (.hostName (String.ofList host))

/-- A port as a number; none is kept when it is empty or the one of the scheme. -/
def readPort (scheme port : List Char) : Except Fault (Option Int) :=
  if port = [] then .ok none
  else
    let numeral := plainNumeral (String.ofList port)
    if digitLimit < (numeral.filter isAsciiDigit).length then
      .error (.port (String.ofList port))
    else
      match readInteger? numeral with
      | none => .error (.port (String.ofList port))
      | some n =>
        .ok (if schemePort? (String.ofList scheme) = some n then none else some n)

/-- Adds a component to a path whose components are kept in reverse. -/
def stepPath (kept : List (List Char)) (component : List Char) : List (List Char) :=
  if component = ['.'] then kept
  else if component = ['.', '.'] then
    if kept = [[]] then kept else kept.drop 1
  else component :: kept

/-- A path without the components `.` and `..`, the latter of which drop one before them. -/
def normalizePath (path : List Char) : List Char :=
  let components := path.splitOn '/'
  if components.contains ['.'] || components.contains ['.', '.'] then
    ['/'].intercalate (components.foldl stepPath []).reverse
  else
    path

/-- Whether a path may stand in a URL with or without a scheme and an authority. -/
def checkPath (hasScheme hasAuthority : Bool) (path : List Char) : Except Fault Unit :=
  if hasAuthority then
    if path ≠ [] ∧ path.head? ≠ some '/' then .error .unrootedPath else .ok ()
  else if hasScheme then .ok ()
  else if ['/', '/'].isPrefixOf path then .error .doubleSlashPath
  else if path.head? = some ':' then .error .colonPath
  else .ok ()

/-- The URL of parts, each of which is checked and encoded: user, host, port and path in turn. -/
def assemble (scheme user host port path : List Char) (query fragment : Option (List Char)) :
    Except Fault Url := do
  let userinfo := quote .userinfo user
  let host ← encodeHost host
  let port ← readPort scheme port
  let hasScheme := scheme ≠ []
  let hasAuthority := userinfo ≠ [] || host ≠ [] || port.isSome
  checkPath hasScheme hasAuthority path
  let path := if hasScheme || hasAuthority then normalizePath path else path
  return {
    scheme := String.ofList (scheme.map asciiLowerChar)
    userinfo := String.ofList userinfo
    host := String.ofList host
    port
    path := String.ofList (quote .path path)
    query := query.map fun q => String.ofList (quote .query q)
    fragment := fragment.map fun f => String.ofList (quote .fragment f) }

/-- The URL that a text stands for. -/
def read (text : String) : Except Fault Url :=
  let chars := text.toList
  if lengthLimit < chars.length then
    .error .tooLong
  else
    match findControl? chars with
    | some (char, position) => .error (.control char position)
    | none =>
      let parts := Parts.split chars
      let (user, host, port) := splitAuthority parts.authority
      assemble parts.scheme user host port parts.path parts.query parts.fragment

/-- The port as the text of a URL shows it. -/
def portText (u : Url) : List Char :=
  match u.port with
  | some port => port.repr.toList
  | none => []

/-- The same URL on another host, a host with colons given without brackets. -/
def withHost (u : Url) (host : String) : Except Fault Url :=
  let chars := host.toList
  let isBracketed := chars.head? = some '[' ∧ chars.getLast? = some ']'
  let shown := if chars.contains ':' ∧ ¬isBracketed then '[' :: chars ++ [']'] else chars
  assemble u.scheme.toList u.userinfo.toList shown u.portText u.path.toList
    (u.query.map String.toList) (u.fragment.map String.toList)

/-- The same URL with another fragment, given as the text that it stands for. -/
def withFragment (u : Url) (fragment : String) : Except Fault Url :=
  match findControl? fragment.toList with
  | some (char, position) => .error (.partControl "fragment" char position)
  | none =>
    assemble u.scheme.toList u.userinfo.toList u.bracketedHost.toList u.portText u.path.toList
      (u.query.map String.toList) (some fragment.toList)

end AlertRelay.Url

import AlertRelay.Url.Quote
import AlertRelay.Host.Label

/-!
# URLs

A URL is kept in its parts, all of them in the form in which they travel.

## Main definitions

* `Url`: the parts of a URL.
* `Url.toText`, `Url.authority`, `Url.target`: its texts.
* `Url.hostName`: the host as it is read.
* `Url.Fault`: why a text is no URL.
-/

namespace AlertRelay

/-- A URL in its parts. A host with colons is kept without the brackets that surround it in the
text. A query or fragment may be present and empty. -/
structure Url where
  scheme : String := ""
  userinfo : String := ""
  host : String := ""
  port : Option Int := none
  path : String := ""
  query : Option String := none
  fragment : Option String := none
  deriving DecidableEq, Repr, Inhabited

namespace Url

/-- Why a text, or a part that a URL is put together from, is refused. -/
inductive Fault
  | tooLong
  | control (char : Char) (position : Nat)
  | partControl (part : String) (char : Char) (position : Nat)
  | ipv4 (host : String)
  | ipv6 (host : String)
  | hostName (host : String)
  | port (text : String)
  | unrootedPath
  | doubleSlashPath
  | colonPath
  deriving DecidableEq, Repr

/-- The message of a fault. -/
def Fault.message : Fault → String
  | .tooLong => "URL too long"
  | .control char position =>
    "Invalid non-printable ASCII character in URL, " ++ Text.quoted char.toString ++
      s!" at position {position}."
  | .partControl part char position =>
    s!"Invalid non-printable ASCII character in URL {part} component, " ++
      Text.quoted char.toString ++ s!" at position {position}."
  | .ipv4 host => "Invalid IPv4 address: " ++ Text.quoted host
  | .ipv6 host => "Invalid IPv6 address: " ++ Text.quoted host
  | .hostName host => "Invalid IDNA hostname: " ++ Text.quoted host
  | .port text => "Invalid port: " ++ Text.quoted text
  | .unrootedPath => "For absolute URLs, path must be empty or begin with '/'"
  | .doubleSlashPath => "Relative URLs cannot have a path starting with '//'"
  | .colonPath => "Relative URLs cannot have a path starting with ':'"

/-- The host between brackets if it has a colon. -/
def bracketedHost (u : Url) : String :=
  if u.host.toList.contains ':' then "[" ++ u.host ++ "]" else u.host

/-- The host and the port. -/
def hostPort (u : Url) : String :=
  u.bracketedHost ++
    match u.port with
    | some port => ":" ++ port.repr
    | none => ""

/-- The user, the host and the port. -/
def authority (u : Url) : String :=
  (if u.userinfo = "" then "" else u.userinfo ++ "@") ++ u.hostPort

/-- The part after a mark, when there is one. -/
def marked (mark : String) : Option String → String
  | some text => mark ++ text
  | none => ""

/-- The text of a URL. -/
def toText (u : Url) : String :=
  (if u.scheme = "" then "" else u.scheme ++ ":") ++
    (if u.authority = "" then "" else "//" ++ u.authority) ++
    u.path ++ marked "?" u.query ++ marked "#" u.fragment

/-- What a request line asks for: the path, a slash if it is empty, and the query. -/
def target (u : Url) : String := (if u.path = "" then "/" else u.path) ++ marked "?" u.query

/-- The text that the fragment stands for. -/
def fragmentText (u : Url) : String := unquote (u.fragment.getD "")

/-- The user name, up to the first colon of the user part, and the password after it. -/
def credentials (u : Url) : String × String :=
  let chars := u.userinfo.toList
  (unquote (String.ofList (chars.takeWhile (· ≠ ':'))),
    unquote (String.ofList ((chars.dropWhile (· ≠ ':')).drop 1)))

/-- The host as it is read: a name that begins with an encoded label has its labels decoded. -/
def hostName (u : Url) : Except Host.LabelFault String :=
  if Host.encodedMark.isPrefixOf u.host.toList then
    (Host.decodeName u.host.toList).map String.ofList
  else
    .ok u.host

/-- A URL that names both a scheme and a host. -/
def isAbsolute (u : Url) : Bool := u.scheme ≠ "" && u.host ≠ ""

/-- The port that a scheme uses unless another is given. -/
def schemePort? (scheme : String) : Option Int :=
  [("ftp", 21), ("http", 80), ("https", 443), ("ws", 80), ("wss", 443)].lookup scheme

/-- The port in use, where the scheme is one of the two that requests are made with. -/
def effectivePort (u : Url) : Option Int :=
  match u.port with
  | some port => some port
  | none => if u.scheme = "http" ∨ u.scheme = "https" then schemePort? u.scheme else none

end Url

end AlertRelay

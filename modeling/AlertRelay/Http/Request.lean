import AlertRelay.Http.Failure
import AlertRelay.Http.Header
import AlertRelay.Text.Base64
import AlertRelay.Url.Reader

/-!
# Requests

## Main definitions

* `Request`: a request as it is sent.
* `Request.prepare`: a request with the headers that it must have.
* `Request.build`: the request that texts describe.
* `Request.authorize`: the request with the credentials of its URL.
-/

namespace AlertRelay.Http

open AlertRelay.Text

/-- A request as it is sent. -/
structure Request where
  method : String
  url : Url
  headers : Headers
  content : Octets
  deriving DecidableEq, Repr, Inhabited

/-- Methods for which an empty content is announced. -/
def announcesEmpty (method : String) : Bool := ["POST", "PUT", "PATCH"].contains method

/-- The host and port of a URL for a header, which must be ASCII. -/
def hostField (url : Url) : Except Failure Octets :=
  match NonAscii.find? url.hostPort with
  | some fault => .error (.notAscii fault)
  | none => .ok (encode url.hostPort)

/-- The field for the host of a URL; none if a host is given already or the URL has none. -/
def hostHeader (url : Url) (headers : Headers) : Except Failure Headers :=
  if headers.has "Host" then
    .ok []
  else
    match url.hostName with
    | .error fault => .error (.host fault)
    | .ok name => if name = "" then .ok [] else (hostField url).map fun value => [⟨"Host", value⟩]

/-- The field that announces the length of a content, at the end, if it is not given already. -/
def withLength (content : Octets) (headers : Headers) : Headers :=
  if content ≠ [] ∧ ¬headers.has "Content-Length" then
    headers ++ [⟨"Content-Length", encode (Nat.repr content.length)⟩]
  else
    headers

/-- The field that announces an empty content, for the methods that need one. -/
def emptyLength (method : String) (headers : Headers) : Headers :=
  if ¬headers.has "Content-Length" ∧ ¬headers.has "Transfer-Encoding" ∧ announcesEmpty method then
    [⟨"Content-Length", encode "0"⟩]
  else
    []

/-- A request with the fields that are missing: the length at the end, the host and the length of
an empty content in front. -/
def Request.prepare (method : String) (url : Url) (headers : Headers) (content : Octets) :
    Except Failure Request := do
  let headers := withLength content headers
  let host ← hostHeader url headers
  return { method, url, headers := host ++ emptyLength method headers ++ headers, content }

/-- A field with a text for value; its name must be ASCII. -/
def headerOf (field : String × String) : Except Failure Header :=
  match NonAscii.find? field.1 with
  | some fault => .error (.notAscii fault)
  | none => .ok ⟨field.1, encode field.2⟩

/-- The request that texts describe. -/
def Request.build (method url body : String) (headers : List (String × String)) :
    Except Failure Request := do
  let url ← (Url.read url).mapError .url
  let fields ← headers.mapM headerOf
  Request.prepare (upper method) url fields (encode body)

/-- The request with the user name and the password of its URL in a header. -/
def Request.authorize (request : Request) : Request :=
  let (user, password) := request.url.credentials
  if user = "" ∧ password = "" then
    request
  else
    let token := base64 (encode (user ++ ":" ++ password))
    { request with
      headers := request.headers.set "Authorization" (encode ("Basic " ++ String.ofList token)) }

end AlertRelay.Http

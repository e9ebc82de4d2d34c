import AlertRelay.Text.Utf8
import AlertRelay.Url.Jar

/-!
# Why a send fails

## Main definitions

* `TransportFailure`: what the connection to the remote side reports.
* `Failure`: every reason for which a request is not built, not answered or rejected.
* `rejectionBody`, `rejectionMessage`: what a rejection tells.
* `Failure.message`: the message of a failure.
-/

namespace AlertRelay.Http

open AlertRelay.Text

/-- A failure of the connection, by its kind and its message. -/
structure TransportFailure where
  kind : String
  message : String
  deriving DecidableEq, Repr, Inhabited

/-- Why a send fails. -/
inductive Failure
  /-- The URL is malformed. -/
  | url (fault : Url.Fault)
  /-- A header name, or the host that a header has to carry, is not ASCII. -/
  | notAscii (fault : NonAscii)
  /-- The host has an encoded label that stands for no label. -/
  | host (fault : Host.LabelFault)
  /-- The connection failed, or what it brought cannot be decoded. -/
  | transport (failure : TransportFailure)
  /-- The cookie jar of the client does not take the URL of a response. -/
  | jar (fault : Url.JarFault)
  /-- A response redirects to a malformed URL. -/
  | location (fault : Url.Fault)
  /-- The responses redirect without end. -/
  | tooManyRedirects
  /-- The client is closed. -/
  | clientClosed
  /-- The remote side answered with an error status. -/
  | rejected (status : Int) (raw : Octets)
  deriving DecidableEq, Repr

/-- The body of a rejecting response as a text, whatever octets it has. -/
def rejectionBody (raw : Octets) : String := decode raw

/-- The message for a rejection. -/
def rejectionMessage (status : Int) (raw : Octets) : String :=
  "call to provider alert returned status code " ++ status.repr ++ ": " ++ rejectionBody raw

/-- The message of a failure. -/
def Failure.message : Failure → String
  | .url fault => fault.message
  | .notAscii fault => fault.message
  | .host fault => fault.message
  | .transport failure => failure.message
  | .jar fault => fault.message
  | .location fault => "Invalid URL in location header: " ++ fault.message ++ "."
  | .tooManyRedirects => "Exceeded maximum allowed redirects."
  | .clientClosed => "Cannot send a request, as the client has been closed."
  | .rejected status raw => rejectionMessage status raw

end AlertRelay.Http

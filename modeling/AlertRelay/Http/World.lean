import AlertRelay.Http.Redirect
import AlertRelay.Log.Record
import AlertRelay.Number.Binary64

/-!
# The world around the relay

The remote side answers requests from a list of replies; clients are opened and closed; what
happens is kept in a journal.

A body whose content is coded, say compressed, is read through decoders that lie outside this
library: what a reading of it gives comes with the response. A jar of a client looks at the URL
of every response but is kept empty: responses that set cookies are left out, as are the fields
with which the client would send them back.

## Main definitions

* `Response`, `Reply`: what the remote side may answer.
* `World`: the replies that are left, all clients so far, and the journal.
* `World.exchange`: sends one request and takes its reply.
-/

namespace AlertRelay.Http

open AlertRelay.Text AlertRelay.Number

/-- What a reading of a coded body gives: the decoded content, or what the connection or a decoder
reports. -/
inductive Decoded
  | content (raw : Octets)
  | failure (failure : TransportFailure)
  deriving DecidableEq, Repr

/-- A response. Its body comes in chunks; a failure may break it off after the last one. -/
structure Response where
  status : Int := 200
  headers : Headers := []
  chunks : List Octets := []
  failure : Option TransportFailure := none
  /-- What a reading of the body gives where the header fields name a content coding. -/
  decoded : Decoded := .content []
  deriving DecidableEq, Repr, Inhabited

/-- Whether the header fields of a response name a content coding. -/
def Response.isCoded (r : Response) : Bool := r.headers.has "Content-Encoding"

/-- The body of a response when it is read to its end. -/
def Response.body (r : Response) : Except TransportFailure Octets :=
  if r.isCoded then
    match r.decoded with
    | .failure failure => .error failure
    | .content raw => .ok raw
  else
    match r.failure with
    | some failure => .error failure
    | none => .ok r.chunks.flatten

/-- The location that a response redirects to. -/
def Response.location? (r : Response) : Option String :=
  if isRedirect r.status then r.headers.joined? "Location" else none

/-- The answer to a request: a response, or a failure of the connection. -/
inductive Reply
  | response (response : Response)
  | failure (failure : TransportFailure)
  deriving DecidableEq, Repr

/-- The times that the stages of a request may take. -/
structure Timeouts where
  connect : Binary64
  read : Binary64
  write : Binary64
  pool : Binary64
  deriving DecidableEq, Repr, Inhabited

/-- The same time for every stage. -/
def Timeouts.uniform (time : Binary64) : Timeouts :=
  { connect := time, read := time, write := time, pool := time }

/-- A client for connections: the times that it allows, whether it follows redirects, and whether
it verifies the identity of the remote side. -/
structure Client where
  timeouts : Timeouts
  followRedirects : Bool
  verifies : Bool := true
  closed : Bool := false
  deriving DecidableEq, Repr, Inhabited

/-- A request that the remote side received, with the times that its client allowed and whether
it verified the identity of the remote side. -/
structure Sent where
  request : Request
  timeouts : Timeouts
  verified : Bool
  deriving DecidableEq, Repr

/-- What the remote side receives when a client sends a request. -/
def Client.sends (c : Client) (request : Request) : Sent :=
  { request, timeouts := c.timeouts, verified := c.verifies }

/-- What became of the body of a response. -/
structure Stream where
  consumed : Bool := false
  closed : Bool := false
  deriving DecidableEq, Repr

/-- What happened, in order. -/
structure Journal where
  sent : List Sent := []
  streams : List Stream := []
  records : List Log.Record := []
  deriving DecidableEq, Repr

/-- The remote side, all clients in the order of their creation, and the journal. -/
structure World where
  replies : List Reply := []
  clients : List Client := []
  journal : Journal := {}
  deriving DecidableEq, Repr

namespace World

/-- The same world with an empty journal. -/
def newPage (w : World) : World := { w with journal := {} }

/-- Gives the remote side new replies, if there are any. -/
def load (replies : Option (List Reply)) (w : World) : World :=
  match replies with
  | some replies => { w with replies }
  | none => w

/-- Creates a client; its number is the second component. -/
def openClient (client : Client) (w : World) : World × Nat :=
  ({ w with clients := w.clients ++ [client] }, w.clients.length)

/-- Closes a client. -/
def closeClient (id : Nat) (w : World) : World :=
  { w with clients := w.clients.modify id fun c => { c with closed := true } }

/-- Adds a record to the journal. -/
def log (logger : String) (level : Log.Level) (message : String) (w : World) : World :=
  { w with journal.records := w.journal.records ++ [⟨logger, level, message⟩] }

/-- The next reply; the last one is never used up, and an empty response stands for none. -/
def nextReply (w : World) : Reply := w.replies.headD (.response {})

/-- The replies that are left after the next one. -/
def laterReplies (w : World) : List Reply :=
  match w.replies with
  | _ :: second :: rest => second :: rest
  | replies => replies

/-- Sends a request and takes its reply; a response opens a stream. -/
def exchange (sent : Sent) (w : World) : Reply × World :=
  let reply := w.nextReply
  let streams :=
    match reply with
    | .response _ => w.journal.streams ++ [{}]
    | .failure _ => w.journal.streams
  (reply,
    { w with
      replies := w.laterReplies
      journal.sent := w.journal.sent ++ [sent]
      journal.streams := streams })

/-- Settles the newest stream, which is then closed. -/
def settleStream (consumed : Bool) (w : World) : World :=
  { w with journal.streams := w.journal.streams.dropLast ++ [{ consumed, closed := true }] }

end World

end AlertRelay.Http

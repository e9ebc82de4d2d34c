import AlertRelay.Http.World
import AlertRelay.Template

/-!
# Sending an alert

An alert is sent by exactly one request, redirects apart; its response is read to the end and
decides by its status whether the alert was taken or rejected.

## Main definitions

* `Config.request`: the request about a target.
* `fetch`: sends a request and follows redirects as far as the client does.
* `deliver`: sends a request through a client and judges the response.
* `send`: sends an alert through the given client, or through one that is opened for it.
-/

namespace AlertRelay

open Http

/-- The method of a template that names none. -/
def defaultMethod : String := "GET"

/-- The request about a target. -/
def Config.request (c : Config) (target : Target) : Except Failure Request :=
  let rendered := c.render target
  let method := if rendered.method = "" then defaultMethod else rendered.method
  Request.build method rendered.url rendered.body rendered.headers

/-- The name under which sending is logged. -/
def senderLogger : String := "webhook_alert.adapters.custom_provider"

/-- The most redirects that one send follows. -/
def redirectLimit : Nat := 20

/-- Sends a request, and after a redirect the next one, `budget` requests in all. The stream of
the response that is returned is still open; those of the redirects before it are settled. The
jar of the client sees a response before anybody is there to close it: where it does not take
the URL, the stream stays open and unread. -/
def fetch (client : Client) (budget : Nat) (request : Request) (w : World) :
    Except Failure Response × World :=
  match budget with
  | 0 => (.error .tooManyRedirects, w)
  | budget + 1 =>
    match w.exchange (client.sends request) with
    | (.failure failure, w) => (.error (.transport failure), w)
    | (.response response, w) =>
      match request.url.jarFault? with
      | some fault => (.error (.jar fault), w)
      | none =>
        match response.location? with
        | none => (.ok response, w)
        | some location =>
          match redirect request response.status location with
          | .error failure => (.error failure, w.settleStream false)
          | .ok next =>
            if client.followRedirects then
              match response.body with
              | .error failure => (.error (.transport failure), w.settleStream false)
              | .ok _ => fetch client budget next (w.settleStream true)
            else
              (.ok response, w)

/-- The statuses above this one reject an alert. -/
def lastAccepted : Int := 399

/-- The characters of a body that a log shows. -/
def excerpt (body : String) : String := String.ofList (body.toList.take 200)

/-- Judges the status of a response whose body was read, and logs the judgement under the key of
the endpoint. -/
def judge (key : String) (status : Int) (raw : Text.Octets) (w : World) :
    Except Failure Unit × World :=
  if lastAccepted < status then
    (.error (.rejected status raw),
      w.log senderLogger .error
        ("Custom alert for " ++ key ++ " rejected. status=" ++ status.repr ++ " body=" ++
          excerpt (rejectionBody raw)))
  else
    (.ok (),
      w.log senderLogger .debug ("Custom alert for " ++ key ++ " sent. status=" ++ status.repr))

/-- Sends a request through a client and judges the response. -/
def deliver (client : Client) (key : String) (request : Request) (w : World) :
    Except Failure Unit × World :=
  if client.closed then
    (.error .clientClosed, w)
  else
    match fetch client (redirectLimit + 1) request.authorize w with
    | (.error failure, w) => (.error failure, w)
    | (.ok response, w) =>
      match response.body with
      | .error failure => (.error (.transport failure), w.settleStream false)
      | .ok raw => judge key response.status raw (w.settleStream true)

/-- The client that options ask for; it allows every stage of a request the same time. -/
def ClientOptions.client (o : ClientOptions) : Client :=
  { timeouts := .uniform o.timeout
    followRedirects := o.followRedirects
    verifies := !o.insecure }

/-- Sends an alert. Without a client of its own one is opened for this send and closed after it;
the configuration then has its client options filled in. -/
def send (config : Config) (client : Option Nat) (target : Target) (w : World) :
    Except Failure Unit × Config × World :=
  match config.request target with
  | .error failure => (.error failure, config, w)
  | .ok request =>
    let key := target.endpoint.key
    match client with
    | some id =>
      let (outcome, w) := deliver (w.clients.getD id default) key request w
      (outcome, config, w)
    | none =>
      let config := config.withDefaults
      let own := (config.client.getD {}).client
      let (w, id) := w.openClient own
      let (outcome, w) := deliver own key request w
      (outcome, config, w.closeClient id)

end AlertRelay

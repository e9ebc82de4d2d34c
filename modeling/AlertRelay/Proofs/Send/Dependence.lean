import AlertRelay.Proofs.Send.Exchanges

/-!
# What a Send Depends On

A send looks at the request that it makes, at the key of its endpoint, at the client that it goes
through, and at the replies that the remote side has left. Which other clients there are, and
whether its own was given or opened for it, makes no difference.

## Main results

* `deliver_withClients`: a delivery does not look at the clients of the world.
* `send_congr`: **two sends agree** on the outcome, the journal and the replies that are left when
  they agree on what they look at.
-/

namespace AlertRelay

open Http

/-- The same world with other clients. -/
def Http.World.withClients (clients : List Client) (w : World) : World := { w with clients }

/-- Worlds that differ in their clients only. -/
theorem eq_withClients {w w' : World} (hreplies : w.replies = w'.replies)
    (hjournal : w.journal = w'.journal) : w' = w.withClients w'.clients := by
  cases w
  cases w'
  simp_all [World.withClients]

/-! ### Other clients -/

/-- A fetch does not look at the clients of the world. -/
theorem fetch_withClients (clients : List Client) (c : Client) (budget : ℕ) (request : Request)
    (w : World) :
    fetch c budget request (w.withClients clients) =
      ((fetch c budget request w).1, (fetch c budget request w).2.withClients clients) := by
  induction budget generalizing request w with
  | zero => rfl
  | succ budget ih =>
      have hreply : (w.withClients clients).nextReply = w.nextReply := rfl
      rw [fetch, fetch, exchange_eq _ (w.withClients clients), exchange_eq _ w, hreply]
      cases w.nextReply with
      | failure failure => rfl
      | response response =>
          simp only
          cases request.url.jarFault? with
          | some fault => rfl
          | none =>
              simp only
              cases response.location? with
              | none => rfl
              | some location =>
                  simp only
                  cases redirect request response.status location with
                  | error failure => rfl
                  | ok next =>
                      cases c.followRedirects with
                      | false => rfl
                      | true =>
                          cases response.body with
                          | error failure => rfl
                          | ok raw => exact ih next (afterRedirect c request w)

/-- A delivery does not look at the clients of the world. -/
theorem deliver_withClients (clients : List Client) (c : Client) (key : String)
    (request : Request) (w : World) :
    deliver c key request (w.withClients clients) =
      ((deliver c key request w).1, (deliver c key request w).2.withClients clients) := by
  rw [deliver, deliver, fetch_withClients]
  cases c.closed with
  | true => rfl
  | false =>
      rcases fetch c (redirectLimit + 1) request.authorize w with ⟨failure | response, w'⟩
      · rfl
      · simp only [Bool.false_eq_true, if_false]
        cases response.body with
        | error failure => rfl
        | ok raw =>
            simp only [judge]
            split <;> rfl

/-! ### Two sends -/

/-- What a send leaves of the replies is what its delivery leaves. -/
theorem send_replies {config : Config} {client : Option ℕ} {target : Target} {w : World}
    {request : Request} {c : Client} (hrequest : config.request target = .ok request)
    (hclient : sender? config w client = some c) :
    (send config client target w).2.2.replies =
      (deliver c target.endpoint.key request (atDelivery config client w)).2.replies := by
  cases client with
  | some id =>
      have hc : w.clients.getD id default = c := by
        rw [List.getD_eq_getElem?_getD, show w.clients[id]? = some c from hclient]
        rfl
      rw [send_injected hrequest, hc]
      rfl
  | none =>
      obtain rfl : (config.withDefaults.client.getD {}).client = c := Option.some.inj hclient
      rw [send_own hrequest]
      rfl

/-- **Two sends agree** when they make the same request for endpoints of the same key, through
clients that are alike, and find the same replies and the same journal. -/
theorem send_congr {config config' : Config} {client client' : Option ℕ} {target target' : Target}
    {w w' : World} {c : Client} (hrequest : config.request target = config'.request target')
    (hkey : target.endpoint.key = target'.endpoint.key)
    (hclient : sender? config w client = some c) (hclient' : sender? config' w' client' = some c)
    (hreplies : w.replies = w'.replies) (hjournal : w.journal = w'.journal) :
    (send config client target w).1 = (send config' client' target' w').1 ∧
      (send config client target w).2.2.journal = (send config' client' target' w').2.2.journal ∧
      (send config client target w).2.2.replies =
        (send config' client' target' w').2.2.replies := by
  cases hbuilt : config.request target with
  | error failure =>
      rw [send_of_request_error hbuilt, send_of_request_error (hrequest.symm.trans hbuilt)]
      exact ⟨rfl, hjournal, hreplies⟩
  | ok request =>
      have hbuilt' : config'.request target' = .ok request := hrequest.symm.trans hbuilt
      obtain ⟨houtcome, hpage⟩ := send_eq_deliver hbuilt hclient
      obtain ⟨houtcome', hpage'⟩ := send_eq_deliver hbuilt' hclient'
      have hworld : atDelivery config' client' w' =
          (atDelivery config client w).withClients (atDelivery config' client' w').clients :=
        eq_withClients (by simpa using hreplies) (by simpa using hjournal)
      rw [houtcome, hpage, send_replies hbuilt hclient, houtcome', hpage',
        send_replies hbuilt' hclient', hworld, deliver_withClients, hkey]
      exact ⟨rfl, rfl, rfl⟩

end AlertRelay

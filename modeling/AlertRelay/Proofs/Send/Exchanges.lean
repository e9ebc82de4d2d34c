import AlertRelay.Proofs.Send.Verdict

/-!
# What a Send Leaves Behind

A send may exchange several requests for replies, and it has many exits. `Exchanges` describes
what the remote side sees of it: requests in turn, each of which is answered by a failure of
the connection or by a response, whose stream is **settled**, that is closed, or **left** open.

Two exits of a fetch leave a stream open. One returns the response, and the delivery settles it
in turn. At the other the jar of the client does not take the URL of the request; nobody holds
the response any more, and its stream stays as it is. Every other exit has settled all streams.

## Main results

* `Exchanges.length_streams`: every response that the remote side gave has a stream of its own.
* `fetch_exchanges`, `deliver_exchanges`: what a fetch and a delivery leave behind.
* `send_streams`: **the streams of a send** are closed, and with a verdict they were read; only
  a send that the jar ends leaves its last stream open.
* `send_clients`: **the clients of a send**: those that were there stay as they are, and one that
  is opened for the send is closed.
* `send_config`: **the configuration of a send**: its client options may be filled in.
-/

namespace AlertRelay

open Http

/-- Whether a reply is a response. -/
def Http.Reply.isResponse : Reply → Bool
  | .response _ => true
  | .failure _ => false

/-- The replies of the remote side to the next requests. -/
def Http.World.answers : ℕ → World → List Reply
  | 0, _ => []
  | n + 1, w => w.nextReply :: answers n { w with replies := w.laterReplies }

/-- Only the replies that are left decide the answers. -/
theorem answers_congr {w w' : World} (h : w.replies = w'.replies) (n : ℕ) :
    w.answers n = w'.answers n := by
  induction n generalizing w w' with
  | zero => rfl
  | succ n ih =>
      rw [World.answers, World.answers, World.nextReply, World.nextReply, h]
      refine congrArg _ (ih ?_)
      simp only [World.laterReplies, h]

/-- The answers are the next reply, and those of a world with the replies behind it. -/
theorem answers_succ {w w' : World} (h : w'.replies = w.laterReplies) (n : ℕ) :
    w.answers (n + 1) = w.nextReply :: w'.answers n :=
  congrArg _ (answers_congr h.symm n)

/-! ### Exchanges -/

/-- Some requests of a client are answered in turn. The stream of each response is closed before
the next request, whether it was read or not, or it is left open. -/
inductive Exchanges (c : Client) : World → List Request → List Stream → World → Prop
  | done {w : World} : Exchanges c w [] [] w
  | failure {w w' : World} {request : Request} {requests : List Request} {streams : List Stream}
      {failure : TransportFailure} :
      w.nextReply = .failure failure →
      Exchanges c (w.exchange (c.sends request)).2 requests streams w' →
      Exchanges c w (request :: requests) streams w'
  | response {w w' : World} {request : Request} {requests : List Request}
      {streams : List Stream} {response : Response} (consumed : Bool) :
      w.nextReply = .response response →
      Exchanges c ((w.exchange (c.sends request)).2.settleStream consumed) requests streams
        w' →
      Exchanges c w (request :: requests) ({ consumed, closed := true } :: streams) w'
  | left {w w' : World} {request : Request} {requests : List Request} {streams : List Stream}
      {response : Response} :
      w.nextReply = .response response →
      Exchanges c (w.exchange (c.sends request)).2 requests streams w' →
      Exchanges c w (request :: requests) ({ consumed := false, closed := false } :: streams) w'

namespace Exchanges

variable {c : Client} {w w₁ w₂ : World} {requests requests' : List Request}
  {streams streams' : List Stream}

/-- A connection that fails leaves no stream. -/
theorem of_failure {failure : TransportFailure} (hreply : w.nextReply = .failure failure)
    (request : Request) :
    Exchanges c w [request] [] (w.exchange (c.sends request)).2 :=
  .failure hreply .done

/-- A response that is settled leaves one stream. -/
theorem of_response {response : Response} (hreply : w.nextReply = .response response)
    (request : Request) (consumed : Bool) :
    Exchanges c w [request] [{ consumed, closed := true }]
      ((w.exchange (c.sends request)).2.settleStream consumed) :=
  .response consumed hreply .done

/-- A response that is left open leaves one stream. -/
theorem of_left {response : Response} (hreply : w.nextReply = .response response)
    (request : Request) :
    Exchanges c w [request] [{ consumed := false, closed := false }]
      (w.exchange (c.sends request)).2 :=
  .left hreply .done

/-- Exchanges after exchanges. -/
theorem trans (h : Exchanges c w requests streams w₁)
    (h' : Exchanges c w₁ requests' streams' w₂) :
    Exchanges c w (requests ++ requests') (streams ++ streams') w₂ := by
  induction h with
  | done => exact h'
  | failure hreply _ ih => exact .failure hreply (ih h')
  | response consumed hreply _ ih => exact .response consumed hreply (ih h')
  | left hreply _ ih => exact .left hreply (ih h')

/-- Exchanges open and close no client. -/
theorem clients_eq (h : Exchanges c w requests streams w₁) : w₁.clients = w.clients := by
  induction h with
  | done => rfl
  | failure _ _ ih => exact ih
  | response _ _ _ ih => exact ih
  | left _ _ ih => exact ih

/-- The remote side receives the requests with the terms of the client. -/
theorem sent_eq (h : Exchanges c w requests streams w₁) :
    w₁.journal.sent = w.journal.sent ++ requests.map c.sends := by
  induction h with
  | done => simp
  | failure _ _ ih => simp [ih, World.exchange]
  | response _ _ _ ih => simp [ih, World.exchange, World.settleStream]
  | left _ _ ih => simp [ih, World.exchange]

/-- The journal gets the streams of the exchanges. -/
theorem streams_eq (h : Exchanges c w requests streams w₁) :
    w₁.journal.streams = w.journal.streams ++ streams := by
  induction h with
  | done => simp
  | failure hreply _ ih => simp [ih, World.exchange, hreply]
  | response _ hreply _ ih => simp [ih, World.exchange, World.settleStream, hreply]
  | left hreply _ ih => simp [ih, World.exchange, hreply]

/-- Every response that the remote side gave has a stream of its own. -/
theorem length_streams (h : Exchanges c w requests streams w₁) :
    streams.length = (w.answers requests.length).countP Reply.isResponse := by
  induction h with
  | done => rfl
  | @failure w _ request requests _ _ hreply _ ih =>
      have hlater : (w.exchange (c.sends request)).2.replies = w.laterReplies := rfl
      rw [ih, List.length_cons, answers_succ hlater, hreply,
        List.countP_cons_of_neg (by simp [Reply.isResponse])]
  | @response w _ request requests _ _ consumed hreply _ ih =>
      have hlater : ((w.exchange (c.sends request)).2.settleStream consumed).replies =
          w.laterReplies := rfl
      rw [List.length_cons, ih, List.length_cons, answers_succ hlater, hreply,
        List.countP_cons_of_pos (by simp [Reply.isResponse])]
  | @left w _ request requests _ _ hreply _ ih =>
      have hlater : (w.exchange (c.sends request)).2.replies = w.laterReplies := rfl
      rw [List.length_cons, ih, List.length_cons, answers_succ hlater, hreply,
        List.countP_cons_of_pos (by simp [Reply.isResponse])]

end Exchanges

/-! ### Fetching and delivering -/

/-- The fault for which the jar of a client does not take a URL, if that is the failure. -/
def Http.Failure.jarFault? : Failure → Option Url.JarFault
  | .jar fault => some fault
  | .url _ | .notAscii _ | .host _ | .transport _ | .location _ | .tooManyRedirects
  | .clientClosed | .rejected .. => none

/-- The jar is not asked where the next request of a redirect is made. -/
theorem jarFault?_of_redirect {request : Request} {status : Int} {location : String}
    {failure : Failure} (h : redirect request status location = .error failure) :
    failure.jarFault? = none := by
  cases hfault : failure.jarFault? with
  | none => rfl
  | some fault =>
      have houtside : failure.isOutsideRedirect = true := by
        cases failure <;> first | rfl | cases hfault
      exact absurd h (redirect_ne_error houtside _ _ _)

/-- What one step of a fetch does: the connection fails, the response is left open because of the
jar, the response is settled unread and the fetch fails, the response is returned, or it was a
redirect that is followed. -/
theorem fetch_step (c : Client) (budget : ℕ) (request : Request) (w : World) :
    (∃ failure, w.nextReply = .failure failure ∧
      fetch c (budget + 1) request w =
        (.error (.transport failure), (w.exchange (c.sends request)).2)) ∨
    ∃ response, w.nextReply = .response response ∧
      ((∃ fault, request.url.jarFault? = some fault ∧
          fetch c (budget + 1) request w =
            (.error (.jar fault), (w.exchange (c.sends request)).2)) ∨
        (∃ failure : Failure, failure.jarFault? = none ∧
          fetch c (budget + 1) request w =
            (.error failure, (w.exchange (c.sends request)).2.settleStream false)) ∨
        fetch c (budget + 1) request w =
          (.ok response, (w.exchange (c.sends request)).2) ∨
        ∃ next, fetch c (budget + 1) request w =
          fetch c budget next (afterRedirect c request w)) := by
  rw [fetch, exchange_eq]
  cases hreply : w.nextReply with
  | failure failure => exact .inl ⟨failure, rfl, rfl⟩
  | response response =>
      refine .inr ⟨response, rfl, ?_⟩
      cases hjar : request.url.jarFault? with
      | some fault => exact .inl ⟨fault, rfl, rfl⟩
      | none =>
          refine .inr ?_
          cases hlocation : response.location? with
          | none => exact .inr (.inl (by simp only [hlocation]))
          | some location =>
              cases hnext : redirect request response.status location with
              | error failure =>
                  exact .inl ⟨failure, jarFault?_of_redirect hnext,
                    by simp only [hlocation, hnext]⟩
              | ok next =>
                  cases hfollow : c.followRedirects with
                  | false =>
                      refine .inr (.inl ?_)
                      simp only [hlocation, hnext, Bool.false_eq_true, if_false]
                  | true =>
                      cases hbody : response.body with
                      | error failure =>
                          refine .inl ⟨.transport failure, rfl, ?_⟩
                          simp only [hlocation, hnext, if_true, hbody]
                      | ok raw =>
                          refine .inr (.inr ⟨next, ?_⟩)
                          simp only [hlocation, hnext, if_true, hbody, afterRedirect]

/-- **What a fetch leaves behind.** A fetch that fails has settled all its responses, unless the
jar ends it. Then, and where a response is returned, the responses before the last one were read,
and the stream of the last one is open. -/
theorem fetch_exchanges (c : Client) (budget : ℕ) (request : Request) (w : World) :
    ∃ requests streams settled, Exchanges c w requests streams settled ∧
      (∀ s ∈ streams, s.closed = true) ∧
      ((∃ failure : Failure, failure.jarFault? = none ∧
          fetch c budget request w = (.error failure, settled)) ∨
        ∃ response last, settled.nextReply = .response response ∧
          (∀ s ∈ streams, s.consumed = true) ∧
          ((∃ fault, last.url.jarFault? = some fault ∧
              fetch c budget request w =
                (.error (.jar fault), (settled.exchange (c.sends last)).2)) ∨
            fetch c budget request w = (.ok response, (settled.exchange (c.sends last)).2))) := by
  induction budget generalizing request w with
  | zero => exact ⟨[], [], w, .done, by simp, .inl ⟨_, rfl, rfl⟩⟩
  | succ budget ih =>
      obtain ⟨failure, hreply, hfetch⟩ | ⟨response, hreply, ⟨fault, hjar, hfetch⟩ |
        ⟨failure, hkind, hfetch⟩ | hfetch | ⟨next, hfetch⟩⟩ := fetch_step c budget request w
      · exact ⟨_, _, _, .of_failure hreply request, by simp, .inl ⟨_, rfl, hfetch⟩⟩
      · exact ⟨[], [], w, .done, by simp,
          .inr ⟨response, request, hreply, by simp, .inl ⟨fault, hjar, hfetch⟩⟩⟩
      · exact ⟨_, _, _, .of_response hreply request false, by simp, .inl ⟨_, hkind, hfetch⟩⟩
      · exact ⟨[], [], w, .done, by simp, .inr ⟨response, request, hreply, by simp, .inr hfetch⟩⟩
      · obtain ⟨requests, streams, settled, hexchanges, hclosed, hresult⟩ :=
          ih next (afterRedirect c request w)
        refine ⟨_, _, settled, .response true hreply hexchanges,
          List.forall_mem_cons.mpr ⟨rfl, hclosed⟩, ?_⟩
        rw [hfetch]
        refine hresult.imp_right ?_
        rintro ⟨last, lastRequest, hlast, hread, hend⟩
        exact ⟨last, lastRequest, hlast, List.forall_mem_cons.mpr ⟨rfl, hread⟩, hend⟩

/-- A send ends in a verdict when the alert was taken or rejected. -/
def IsVerdict (outcome : Except Failure Unit) : Prop :=
  outcome = .ok () ∨ ∃ status raw, outcome = .error (.rejected status raw)

/-- A verdict is not the end by the jar. -/
theorem IsVerdict.ne_jar {outcome : Except Failure Unit} (h : IsVerdict outcome)
    (fault : Url.JarFault) : outcome ≠ .error (.jar fault) := by
  rintro rfl
  rcases h with h | ⟨status, raw, h⟩ <;> cases h

/-- No fetch rejects an alert. -/
theorem not_isVerdict_of_fetch {c : Client} {budget : ℕ} {request : Request} {w : World}
    {failure : Failure} (h : (fetch c budget request w).1 = .error failure) :
    ¬IsVerdict (.error failure) := by
  rintro (h' | ⟨status, raw, h'⟩)
  · cases h'
  · cases h'
    exact fetch_ne_error rfl c budget request w h

/-- How a send that ends in an outcome leaves the streams of its requests. They are closed, and
with a verdict they were read. Only where the jar does not take the URL of the last request, the
stream of its response is open and unread, and those before it were read and closed. -/
structure Leaves (outcome : Except Failure Unit) (requests : List Request)
    (streams : List Stream) : Prop where
  closed : (∀ fault, outcome ≠ .error (.jar fault)) → ∀ s ∈ streams, s.closed = true
  consumed : IsVerdict outcome → ∀ s ∈ streams, s.consumed = true
  left : ∀ fault, outcome = .error (.jar fault) →
    ∃ read last, streams = read ++ [{ consumed := false, closed := false }] ∧
      (∀ s ∈ read, s.consumed = true ∧ s.closed = true) ∧
      requests.getLast? = some last ∧ last.url.jarFault? = some fault

/-- A failure of the connection is no verdict. -/
theorem not_isVerdict_of_transport {failure : TransportFailure} :
    ¬IsVerdict (.error (.transport failure)) := by
  rintro (h | ⟨status, raw, h⟩) <;> cases h

/-- An outcome that is not the end by the jar, with all streams closed. -/
theorem Leaves.of_closed {outcome : Except Failure Unit} {requests : List Request}
    {streams : List Stream} (hkind : ∀ fault, outcome ≠ .error (.jar fault))
    (hclosed : ∀ s ∈ streams, s.closed = true)
    (hread : IsVerdict outcome → ∀ s ∈ streams, s.consumed = true) :
    Leaves outcome requests streams where
  closed _ := hclosed
  consumed := hread
  left fault h := absurd h (hkind fault)

/-- A failure that is not the one of the jar, as an outcome. -/
theorem ne_jar_of_jarFault {failure : Failure} (h : failure.jarFault? = none)
    (fault : Url.JarFault) : (.error failure : Except Failure Unit) ≠ .error (.jar fault) := by
  rintro ⟨⟩
  cases h

/-- What a status says is never a fault of the URL. -/
theorem verdict_ne_jar (status : Int) (raw : Text.Octets) (fault : Url.JarFault) :
    verdict status raw ≠ .error (.jar fault) := by
  rw [verdict]
  split <;> rintro ⟨⟩

/-- **What a delivery leaves behind.** -/
theorem deliver_exchanges (c : Client) (key : String) (request : Request) (w : World) :
    ∃ requests streams settled records, Exchanges c w requests streams settled ∧
      (deliver c key request w).2 = { settled with journal.records := records } ∧
      Leaves (deliver c key request w).1 requests streams := by
  rw [deliver]
  cases hclosed : c.closed with
  | true =>
      exact ⟨[], [], w, _, .done, rfl, .of_closed (ne_jar_of_jarFault rfl) (by simp) (by simp)⟩
  | false =>
      rw [if_neg Bool.false_ne_true]
      obtain ⟨requests, streams, settled, hexchanges, hsettled, ⟨failure, hkind, hfetch⟩ |
        ⟨response, last, hreply, hread, ⟨fault, hjar, hfetch⟩ | hfetch⟩⟩ :=
          fetch_exchanges c (redirectLimit + 1) request.authorize w
      · have hfailure : (fetch c (redirectLimit + 1) request.authorize w).1 = .error failure := by
          rw [hfetch]
        rw [hfetch]
        exact ⟨_, _, settled, _, hexchanges, rfl, .of_closed (ne_jar_of_jarFault hkind) hsettled
          fun h => absurd h (not_isVerdict_of_fetch hfailure)⟩
      · rw [hfetch]
        refine ⟨_, _, _, _, hexchanges.trans (.of_left hreply last), rfl, ?_, ?_, ?_⟩
        · exact fun h => absurd rfl (h fault)
        · exact fun h => absurd rfl (h.ne_jar fault)
        · rintro _ ⟨⟩
          exact ⟨streams, last, rfl, fun s hs => ⟨hread s hs, hsettled s hs⟩, by simp, hjar⟩
      · have hlast (consumed : Bool) :
            ∀ s ∈ streams ++ [{ consumed, closed := true }], s.closed = true :=
          List.forall_mem_append.mpr ⟨hsettled, List.forall_mem_singleton.mpr rfl⟩
        rw [hfetch]
        cases hbody : response.body with
        | error failure =>
            simp only [hbody]
            exact ⟨_, _, _, _, hexchanges.trans (.of_response hreply last false), rfl,
              .of_closed (ne_jar_of_jarFault rfl) (hlast false)
                fun h => absurd h not_isVerdict_of_transport⟩
        | ok raw =>
            simp only [hbody]
            refine ⟨_, _, _, _, hexchanges.trans (.of_response hreply last true),
              judge_snd _ _ _ _, .of_closed ?_ (hlast true) fun _ => ?_⟩
            · rw [judge_fst]
              exact verdict_ne_jar _ _
            · exact List.forall_mem_append.mpr ⟨hread, List.forall_mem_singleton.mpr rfl⟩

/-- A delivery opens and closes no client. -/
theorem deliver_clients (c : Client) (key : String) (request : Request) (w : World) :
    (deliver c key request w).2.clients = w.clients := by
  obtain ⟨_, _, _, _, hexchanges, hworld, -⟩ := deliver_exchanges c key request w
  rw [hworld]
  exact hexchanges.clients_eq

/-! ### Sending -/

/-- **The streams of a send.** Every response that the remote side gave has a stream, which is
left as the outcome tells. The requests go through one client. -/
theorem send_streams (config : Config) (client : Option ℕ) (target : Target) (w : World) :
    ∃ (requests : List Request) (streams : List Stream),
      (send config client target w).2.2.journal.sent = w.journal.sent ++
        requests.map ((sender? config w client).getD default).sends ∧
      (send config client target w).2.2.journal.streams = w.journal.streams ++ streams ∧
      streams.length = (w.answers requests.length).countP Reply.isResponse ∧
      Leaves (send config client target w).1 requests streams := by
  cases hrequest : config.request target with
  | error failure =>
      rw [send_of_request_error hrequest]
      refine ⟨[], [], by simp, by simp, rfl,
        .of_closed (fun fault h => ?_) (by simp) (by simp)⟩
      cases h
      exact config.request_ne_error rfl target hrequest
  | ok request =>
      obtain ⟨houtcome, hjournal⟩ :
          (send config client target w).1 =
              (deliver ((sender? config w client).getD default) target.endpoint.key request
                (atDelivery config client w)).1 ∧
            (send config client target w).2.2.journal =
              (deliver ((sender? config w client).getD default) target.endpoint.key request
                (atDelivery config client w)).2.journal := by
        cases client with
        | some id =>
            rw [send_injected hrequest, List.getD_eq_getElem?_getD]
            exact ⟨rfl, rfl⟩
        | none =>
            rw [send_own hrequest]
            exact ⟨rfl, rfl⟩
      obtain ⟨requests, streams, settled, records, hexchanges, hworld, hleaves⟩ :=
        deliver_exchanges ((sender? config w client).getD default) target.endpoint.key request
          (atDelivery config client w)
      have hsent := hexchanges.sent_eq
      have hstreams := hexchanges.streams_eq
      rw [atDelivery_journal] at hsent hstreams
      refine ⟨requests, streams, ?_, ?_, ?_, ?_⟩
      · rw [hjournal, hworld]
        exact hsent
      · rw [hjournal, hworld]
        exact hstreams
      · rw [hexchanges.length_streams, answers_congr (atDelivery_replies config client w)]
      · rw [houtcome]
        exact hleaves

/-- A change behind a list changes what was put there. -/
theorem modify_append_length {α : Type} (l : List α) (a : α) (f : α → α) :
    (l ++ [a]).modify l.length f = l ++ [f a] := by
  induction l with
  | nil => rfl
  | cons b l ih => simp [ih]

/-- **The clients of a send.** The clients that were there stay as they are, open or closed; one
that is opened for the send is closed after it, and none is opened where one is given. -/
theorem send_clients (config : Config) (client : Option ℕ) (target : Target) (w : World) :
    ∃ own, (send config client target w).2.2.clients = w.clients ++ own ∧
      (∀ c ∈ own, c.closed = true) ∧ (client.isSome = true → own = []) := by
  cases hrequest : config.request target with
  | error failure =>
      rw [send_of_request_error hrequest]
      exact ⟨[], by simp, by simp, fun _ => rfl⟩
  | ok request =>
      cases client with
      | some id =>
          rw [send_injected hrequest]
          exact ⟨[], by simp [deliver_clients], by simp, fun _ => rfl⟩
      | none =>
          let own := (config.withDefaults.client.getD {}).client
          refine ⟨[{ own with closed := true }], ?_, List.forall_mem_singleton.mpr rfl, by simp⟩
          rw [send_own hrequest]
          simp only [World.closeClient, deliver_clients, World.openClient]
          exact modify_append_length _ _ _

/-- **The configuration of a send.** Its client options are filled in when a request is sent
without a client that was given; nothing else changes. -/
theorem send_config (config : Config) (client : Option ℕ) (target : Target) (w : World) :
    (send config client target w).2.1 =
      if client = none ∧ (config.request target).isOk = true then config.withDefaults
      else config := by
  cases hrequest : config.request target with
  | error failure =>
      rw [send_of_request_error hrequest, if_neg]
      rintro ⟨-, ⟨⟩⟩
  | ok request =>
      cases client with
      | some id =>
          rw [send_injected hrequest, if_neg]
          rintro ⟨⟨⟩, -⟩
      | none =>
          rw [send_own hrequest, if_pos]
          exact ⟨rfl, rfl⟩

end AlertRelay

import AlertRelay.Proofs.Session.Ownership
import Mathlib.Data.List.Forall2

/-!
# What Influences a Send

Two alerts **read alike**, each in its own configuration, when their endpoints and their states
are the same, their descriptions are the same text, and the remap tables have the same word for
this state, or both have none; and when the templates and the client options of the
configurations are the same. Then all that a template may refer to has the same values, so the
same request is made of it.

All else is out of reach of a template: the results, the kind, the thresholds and the flags of an
alert, the default alert, the other remap tables and the word for the opposite state. Two sends of
alerts that read alike, through clients in the same state and against the same replies, cannot
be told apart by what the remote side receives, by how they end or by what they log.

## Main results

* `ReadsAlike.request`: alerts that read alike make the same request.
* `Session.step_send_of_readsAlike`: **a send depends on nothing but what the templates use.**
* `Session.run_map_shared_of_readsAlike`: the same for all sends of two sessions.
-/

namespace AlertRelay

open Http Schema

/-! ### What a template reads -/

/-- The word that a remap table has in the place of a state, if it has one. -/
def replacement? (placeholders : Remap) (resolved : Bool) : Option String :=
  (placeholders.lookup Token.state.label).bind (·.lookup (standardWord resolved))

/-- A table that is missing, one that is empty and one without the state leave its word. -/
theorem stateWord_eq (placeholders : Remap) (resolved : Bool) :
    stateWord placeholders resolved =
      (replacement? placeholders resolved).getD (standardWord resolved) := by
  rw [stateWord, replacement?]
  cases placeholders.lookup Token.state.label <;> rfl

/-- Two alerts, each in its own configuration, of which a send reads the same. -/
structure ReadsAlike (config : Config) (target : Target) (config' : Config) (target' : Target) :
    Prop where
  url : config.url = config'.url
  method : config.method = config'.method
  body : config.body = config'.body
  headers : config.headers = config'.headers
  client : config.client = config'.client
  endpoint : target.endpoint = target'.endpoint
  description : target.alert.description.getD "" = target'.alert.description.getD ""
  resolved : target.resolved = target'.resolved
  replacement : replacement? config.placeholders target.resolved =
    replacement? config'.placeholders target'.resolved

namespace ReadsAlike

variable {c c' : Config} {t t' : Target}

/-- The word for the state is the same. -/
theorem stateWord (h : ReadsAlike c t c' t') :
    stateWord c.placeholders t.resolved = stateWord c'.placeholders t'.resolved := by
  rw [stateWord_eq, stateWord_eq, h.replacement, h.resolved]

/-- Every token has the same value. -/
theorem value (h : ReadsAlike c t c' t') (token : Token) :
    token.value c.placeholders t = token.value c'.placeholders t' := by
  cases token with
  | description => exact h.description
  | name => exact congrArg Endpoint.name h.endpoint
  | group => exact congrArg Endpoint.group h.endpoint
  | url => exact congrArg Endpoint.url h.endpoint
  | state => exact h.stateWord

/-- Alerts that read alike are rendered alike. -/
theorem render (h : ReadsAlike c t c' t') : c.render t = c'.render t' := by
  have htemplate : c.template = c'.template := by
    rw [Config.template, Config.template, h.url, h.method, h.body, h.headers]
  have hvalue : (fun token : Token => token.value c.placeholders t) =
      fun token => token.value c'.placeholders t' := funext h.value
  rw [Config.render, Config.render, Template.render, Template.render, htemplate]
  simp only [funext_iff.mp hvalue]

/-- Alerts that read alike make the same request, or fail to make one alike. -/
theorem request (h : ReadsAlike c t c' t') : c.request t = c'.request t' := by
  rw [Config.request, Config.request, h.render]

/-- Whether options are filled in on both sides makes no difference. -/
theorem withDefaults (h : ReadsAlike c t c' t') :
    ReadsAlike c.withDefaults t c'.withDefaults t' where
  url := h.url
  method := h.method
  body := h.body
  headers := h.headers
  client := by rw [Config.withDefaults, Config.withDefaults, h.client]
  endpoint := h.endpoint
  description := h.description
  resolved := h.resolved
  replacement := h.replacement

end ReadsAlike

namespace Session

/-! ### One send -/

/-- Two sessions with the same kind of client: neither was given one, or both were, in the same
state. -/
inductive SameClient (s s' : Session) : Prop
  | own : s.client = none → s'.client = none → SameClient s s'
  | given {id id' : ℕ} {c : Client} : s.client = some id → s'.client = some id' →
      s.world.clients[id]? = some c → s'.world.clients[id']? = some c → SameClient s s'

/-- The next sends of two sessions go through the same client. -/
theorem SameClient.exists_sender {s s' : Session} (h : SameClient s s')
    (hoptions : s.config.client = s'.config.client) :
    ∃ c, sender? s.config s.world s.client = some c ∧
      sender? s'.config s'.world s'.client = some c := by
  cases h with
  | own hnone hnone' =>
      have hsame : s.config.withDefaults.client = s'.config.withDefaults.client := by
        rw [Config.withDefaults, Config.withDefaults, hoptions]
      exact ⟨_, by rw [hnone, sender?], by rw [hnone', sender?, hsame]⟩
  | @given id id' c hid hid' hget hget' =>
      exact ⟨c, by rw [hid, sender?, hget], by rw [hid', sender?, hget']⟩

/-- Of two sessions with the same kind of client, both were given one or neither. -/
theorem SameClient.isNone_iff {s s' : Session} (h : SameClient s s') :
    s.client = none ↔ s'.client = none := by
  cases h with
  | own hnone hnone' => exact iff_of_true hnone hnone'
  | given hid hid' => exact iff_of_false (by simp [hid]) (by simp [hid'])

/-- Where a client was given, it is the same one at the beginning of a send step. -/
theorem SameClient.facing {s s' : Session} (h : SameClient s s')
    (replies replies' : Option (List Reply)) : SameClient (s.facing replies) (s'.facing replies') := by
  cases h with
  | own hnone hnone' => exact .own hnone hnone'
  | @given id id' c hid hid' hget hget' =>
      refine .given (c := c) hid hid' ?_ ?_
      · rw [facing_clients, hget]
      · rw [facing_clients, hget']

/-- A send leaves the client that was given as it is. -/
theorem SameClient.sendTarget {s s' : Session} (h : SameClient s s') (t t' : Target) :
    SameClient (s.sendTarget t).2 (s'.sendTarget t').2 := by
  have hkept {u : Session} {id : ℕ} (hid : u.client = some id) (t : Target) :
      (u.sendTarget t).2.world.clients = u.world.clients := by
    obtain ⟨own, hclients, -, hnone⟩ := send_clients u.config u.client t u.world
    rw [sendTarget_world, hclients, hnone (by rw [hid]; rfl), List.append_nil]
  cases h with
  | own hnone hnone' =>
      exact .own ((sendTarget_client t s).trans hnone) ((sendTarget_client t' s').trans hnone')
  | @given id id' c hid hid' hget hget' =>
      refine .given (c := c) ((sendTarget_client t s).trans hid)
        ((sendTarget_client t' s').trans hid') ?_ ?_
      · rw [hkept hid, hget]
      · rw [hkept hid', hget']

/-- A send of alerts that read alike ends alike, and leaves behind the same. -/
theorem sendTarget_of_readsAlike {s s' : Session} {t t' : Target}
    (h : ReadsAlike s.config t s'.config t') (hclient : SameClient s s')
    (hreplies : s.world.replies = s'.world.replies) (hjournal : s.world.journal = s'.world.journal) :
    (s.sendTarget t).1.outcome = (s'.sendTarget t').1.outcome ∧
      (s.sendTarget t).1.journal = (s'.sendTarget t').1.journal ∧
      (s.sendTarget t).2.world.replies = (s'.sendTarget t').2.world.replies := by
  obtain ⟨c, hsender, hsender'⟩ := hclient.exists_sender h.client
  have hkey : t.endpoint.key = t'.endpoint.key := congrArg Endpoint.key h.endpoint
  obtain ⟨houtcome, hpage, hleft⟩ := send_congr h.request hkey hsender hsender' hreplies hjournal
  rw [sendTarget_outcome, sendTarget_outcome, sendTarget_journal, sendTarget_journal,
    sendTarget_world, sendTarget_world]
  exact ⟨houtcome, hpage, hleft⟩

/-- What reads alike before a send reads alike after it: options are filled in on both sides or on
neither. -/
theorem readsAlike_sendTarget {s s' : Session} {t t' : Target}
    (h : ReadsAlike s.config t s'.config t') (hclient : SameClient s s') {u u' : Target}
    (hnext : ReadsAlike s.config u s'.config u') :
    ReadsAlike (s.sendTarget t).2.config u (s'.sendTarget t').2.config u' := by
  rw [sendTarget_config, sendTarget_config, send_config, send_config, h.request]
  simp only [hclient.isNone_iff]
  split
  · exact hnext.withDefaults
  · exact hnext

/-- The same at the beginning of a send step, where the remote side has the same replies. -/
theorem sendTarget_facing_of_readsAlike {s s' : Session} {replies replies' : Option (List Reply)}
    {t t' : Target} (h : ReadsAlike s.config t s'.config t') (hclient : SameClient s s')
    (hreplies : replies.getD s.world.replies = replies'.getD s'.world.replies) :
    let sent := (s.facing replies).sendTarget t
    let sent' := (s'.facing replies').sendTarget t'
    sent.1.outcome = sent'.1.outcome ∧ sent.1.journal = sent'.1.journal ∧
      sent.2.world.replies = sent'.2.world.replies := by
  have hread : ReadsAlike (s.facing replies).config t (s'.facing replies').config t' := h
  have hfaced : (s.facing replies).world.replies = (s'.facing replies').world.replies := by
    rw [facing_replies, facing_replies, facedReplies, facedReplies, hreplies]
  have hpage : (s.facing replies).world.journal = (s'.facing replies').world.journal := by
    rw [facing_journal, facing_journal]
  exact sendTarget_of_readsAlike hread (hclient.facing replies replies') hfaced hpage

/-- **A send depends on nothing but what the templates use.** Let a send step be taken in each of
two sessions whose clients are of the same kind and in the same state, against the same replies.
If the alerts of the steps read alike, then both end alike, with the same error if there is one;
the remote side receives the same requests and sees its responses treated alike, and the same
records are logged. The evaluations, the rest of the alerts, and the rest of the configurations
may differ. -/
theorem step_send_of_readsAlike {s s' : Session} {target target' : TargetDocument}
    {evaluation evaluation' : Json} {replies replies' : Option (List Reply)} {t t' : Target}
    (haccepted : acceptedTarget target evaluation = .ok t)
    (haccepted' : acceptedTarget target' evaluation' = .ok t')
    (h : ReadsAlike s.config t s'.config t') (hclient : SameClient s s')
    (hreplies : replies.getD s.world.replies = replies'.getD s'.world.replies) :
    ∃ report report',
      (s.step (.send target evaluation replies)).1 = .sent report ∧
      (s'.step (.send target' evaluation' replies')).1 = .sent report' ∧
      report.outcome = report'.outcome ∧
      report.journal.sent = report'.journal.sent ∧
      report.journal.streams = report'.journal.streams ∧
      report.journal.records = report'.journal.records := by
  obtain ⟨houtcome, hjournal, -⟩ := sendTarget_facing_of_readsAlike h hclient hreplies
  refine ⟨((s.facing replies).sendTarget t).1, ((s'.facing replies').sendTarget t').1, ?_, ?_,
    houtcome, ?_, ?_, ?_⟩
  · rw [step_send_of_accepted haccepted]
  · rw [step_send_of_accepted haccepted']
  · rw [hjournal]
  · rw [hjournal]
  · rw [hjournal]

/-- No remap table and one with a word for the opposite state; no description and an empty one.
The rejections that follow are the same. -/
theorem step_send_of_readsAlike_opposite_word :
    let options : ClientOptions := {}
    let config : Config := { url := "http://h/", body := "[ALERT_TRIGGERED_OR_RESOLVED]" }
    let other : Config :=
      { config with
        placeholders := [("ENDPOINT_NAME", [("n", "m")]),
          ("ALERT_TRIGGERED_OR_RESOLVED", [("RESOLVED", "over")])]
        defaultAlert := some { enabled := false } }
    let s := start config (some options.client)
    let s' := start other (some options.client)
    let target : TargetDocument := {}
    let target' : TargetDocument :=
      { alert := .object [("description", .string ""), ("failure-threshold", .int 9),
          ("triggered", .bool true)] }
    let evaluation : Json := .object [("success", .bool true)]
    let evaluation' : Json := .object [("errors", .array [.string "refused"])]
    let t : Target := { endpoint := { name := "n" }, alert := {}, resolved := false }
    let t' : Target :=
      { t with alert := { description := some "", failureThreshold := 9, triggered := true } }
    let replies : Option (List Reply) := some [.response { status := 500, chunks := [[0x41]] }]
    acceptedTarget target evaluation = .ok t ∧ acceptedTarget target' evaluation' = .ok t' ∧
      ReadsAlike s.config t s'.config t' ∧ SameClient s s' ∧
      ∃ report report',
        (s.step (.send target evaluation replies)).1 = .sent report ∧
        (s'.step (.send target' evaluation' replies)).1 = .sent report' ∧
        report.outcome = report'.outcome ∧
        report.journal.sent = report'.journal.sent ∧
        report.journal.streams = report'.journal.streams ∧
        report.journal.records = report'.journal.records := by
  intro options config other s s' target target' evaluation evaluation' t t' replies
  have haccepted : acceptedTarget target evaluation = .ok t := rfl
  have haccepted' : acceptedTarget target' evaluation' = .ok t' := rfl
  have hread : ReadsAlike s.config t s'.config t' := by
    refine ⟨rfl, rfl, rfl, rfl, rfl, rfl, rfl, rfl, ?_⟩
    decide
  have hclient : SameClient s s' := .given (c := options.client) rfl rfl rfl rfl
  have hreplies : replies.getD s.world.replies = replies.getD s'.world.replies := rfl
  exact ⟨haccepted, haccepted', hread, hclient,
    step_send_of_readsAlike haccepted haccepted' hread hclient hreplies⟩

/-! ### All sends -/

/-- Send steps whose documents are accepted and whose alerts read alike, against the same
replies. -/
inductive SendsAlike (config config' : Config) : Step → Step → Prop
  | mk {target target' : TargetDocument} {evaluation evaluation' : Json}
      {replies : Option (List Reply)} {t t' : Target} :
      acceptedTarget target evaluation = .ok t → acceptedTarget target' evaluation' = .ok t' →
      ReadsAlike config t config' t' →
      SendsAlike config config' (.send target evaluation replies)
        (.send target' evaluation' replies)

/-- After two sends that read alike the sessions still have the same client and the same replies,
and later sends that read alike still do. -/
theorem step_sendsAlike {s s' : Session} (hclient : SameClient s s')
    (hreplies : s.world.replies = s'.world.replies) {first first' : Step}
    (h : SendsAlike s.config s'.config first first') :
    (s.step first).1.shared = (s'.step first').1.shared ∧
      SameClient (s.step first).2 (s'.step first').2 ∧
      (s.step first).2.world.replies = (s'.step first').2.world.replies ∧
      ∀ {next next' : Step}, SendsAlike s.config s'.config next next' →
        SendsAlike (s.step first).2.config (s'.step first').2.config next next' := by
  obtain @⟨target, target', evaluation, evaluation', replies, t, t', haccepted, haccepted',
    hread⟩ := h
  have hfacing := hclient.facing replies replies
  have hfaced : replies.getD s.world.replies = replies.getD s'.world.replies := by rw [hreplies]
  obtain ⟨houtcome, hjournal, hleft⟩ := sendTarget_facing_of_readsAlike hread hclient hfaced
  have hread : ReadsAlike (s.facing replies).config t (s'.facing replies).config t' := hread
  rw [step_send_of_accepted haccepted, step_send_of_accepted haccepted']
  dsimp only
  refine ⟨?_, hfacing.sendTarget t t', hleft, ?_⟩
  · simp only [Answer.shared, houtcome, hjournal]
  · rintro _ _ ⟨hnext, hnext', hlike⟩
    exact .mk hnext hnext' (readsAlike_sendTarget hread hfacing hlike)

/-- **All sends.** Two sessions whose sends read alike one by one give answers that agree in what is
told without regard to the clients that there are. -/
theorem run_map_shared_of_readsAlike {s s' : Session} (hclient : SameClient s s')
    (hreplies : s.world.replies = s'.world.replies) {steps steps' : List Step}
    (h : List.Forall₂ (SendsAlike s.config s'.config) steps steps') :
    (s.run steps).1.map Answer.shared = (s'.run steps').1.map Answer.shared := by
  induction steps generalizing s s' steps' with
  | nil =>
      cases h
      rfl
  | cons first rest ih =>
      obtain ⟨first', rest', hfirst, hrest, rfl⟩ := List.forall₂_cons_left_iff.mp h
      obtain ⟨hanswer, hclient, hreplies, hlater⟩ := step_sendsAlike hclient hreplies hfirst
      have hanswers := ih hclient hreplies (hrest.imp fun _ _ => hlater)
      rw [run_cons, run_cons, List.map_cons, List.map_cons, hanswer, hanswers]

end Session

end AlertRelay

import AlertRelay.Proofs.Environment.Faults
import AlertRelay.Proofs.Json.Distinct
import AlertRelay.Proofs.Schema.Faults

/-!
# Which Fault Is Reported

Variables can be wrong in several ways at once. They are looked at in four stages: the text of the
headers, the text of the placeholders, the text of the timeout, and the entries of the two tables.
The first stage that fails is reported, and no later one. The last stage is the only one that
reports several things: one row for each entry of the wrong kind, in either table.

An integer of too many digits in one of the first two texts is reported instead of any stage, as
no error of the configuration at all (`Environment.RunsInto`). So would be a text that is nested too
deeply for a reader with a bounded stack; there is no such bound here.

## Main definitions

* `Stage`, `Environment.Fails`, `Environment.FailsFirst`: what is wrong with an environment.
* `offences`: the rows for the entries of two tables that are of the wrong kind.
* `Environment.Reports`: the faults that report a stage.

## Main results

* `Config.toJson_faults`: the rows of a document are its offences.
* `Config.ofEnvironment_reports`: **the first stage that fails is reported**.
-/

namespace AlertRelay

open Json Number Schema Text

/-! ### What is wrong -/

/-- The stages in which variables are looked at. -/
inductive Stage
  | headers
  | placeholders
  | timeout
  | entries
  deriving DecidableEq, Repr

/-- The place of a stage in their order. -/
def Stage.rank : Stage → ℕ
  | .headers => 0
  | .placeholders => 1
  | .timeout => 2
  | .entries => 3

/-- The row for an entry of the wrong kind: the keys that lead to it, and the word for the kind. -/
def offence (place : List String) (word : String) : Json :=
  .object [("loc", .array (place.map .string)), ("type", .string word)]

/-- The row for a value that should be a text, if it is none. -/
def textOffences (place : List String) : Json → List Json
  | .string _ => []
  | _ => [offence place "string_type"]

/-- The rows for the entries of the wrong kind: values of headers that are no texts, tables of
replacements that are no objects, and replacements that are no texts. -/
def offences (headers placeholders : Table Json) : List Json :=
  (headers.flatMap fun header => textOffences ["headers", header.1] header.2) ++
    placeholders.flatMap fun placeholder =>
      match placeholder.2 with
      | .object words =>
        words.flatMap fun word => textOffences ["placeholders", placeholder.1, word.1] word.2
      | _ => [offence ["placeholders", placeholder.1] "dict_type"]

/-- Two headers, of which one is no text, and two placeholders that are wrong at both depths. -/
example :
    offences [("X-Id", .int 1), ("X-On", .string "on")]
        [("state", .null), ("word", .object [("up", .bool true)])] =
      [offence ["headers", "X-Id"] "string_type", offence ["placeholders", "state"] "dict_type",
       offence ["placeholders", "word", "up"] "string_type"] :=
  rfl

namespace Environment

/-- The variables fail in a stage: a text holds no table or no number, or the two tables have
entries of the wrong kind. -/
def Fails (env : Environment) : Stage → Prop
  | .headers => ¬∃ table, HoldsTable (env.value "CUSTOM_ALERT_HEADERS") table
  | .placeholders => ¬∃ table, HoldsTable (env.value "CUSTOM_ALERT_PLACEHOLDERS") table
  | .timeout => ¬∃ seconds, HoldsSeconds (env.value "CUSTOM_ALERT_TIMEOUT") seconds
  | .entries => ∃ headers placeholders,
      HoldsTable (env.value "CUSTOM_ALERT_HEADERS") headers ∧
      HoldsTable (env.value "CUSTOM_ALERT_PLACEHOLDERS") placeholders ∧
      offences headers placeholders ≠ []

/-- The variables fail in a stage, and in no earlier one. -/
def FailsFirst (env : Environment) (stage : Stage) : Prop :=
  env.Fails stage ∧ ∀ earlier : Stage, earlier.rank < stage.rank → ¬env.Fails earlier

end Environment

/-- What a text that holds no table is refused with: it spells another value, or none at all. -/
def RefusesText (name text : String) (fault : ConfigFault) : Prop :=
  (∃ value, Spells text.toList (.slot value) ∧ (∀ table, value ≠ .object table) ∧
      fault = .notObject name) ∨
    (¬∃ value, Spells text.toList (.slot value)) ∧
      ∃ problem position, fault = .malformed name text problem position

/-- A fault reports a stage. For the last one it has one row for every entry of the wrong kind,
none of them twice, and their number stands in the message. -/
def Environment.Reports (env : Environment) (fault : ConfigFault) : Stage → Prop
  | .headers => RefusesText "CUSTOM_ALERT_HEADERS" (env.value "CUSTOM_ALERT_HEADERS") fault
  | .placeholders =>
      RefusesText "CUSTOM_ALERT_PLACEHOLDERS" (env.value "CUSTOM_ALERT_PLACEHOLDERS") fault
  | .timeout => fault = .notNumber (env.value "CUSTOM_ALERT_TIMEOUT")
  | .entries => ∃ faults headers placeholders,
      fault = .invalid faults ∧
      HoldsTable (env.value "CUSTOM_ALERT_HEADERS") headers ∧
      HoldsTable (env.value "CUSTOM_ALERT_PLACEHOLDERS") placeholders ∧
      (rows faults).Perm (offences headers placeholders) ∧ (rows faults).Nodup ∧
      fault.message =
        "invalid custom alert configuration: " ++ toString (rows faults).length ++
          (if (rows faults).length = 1 then " validation error" else " validation errors") ++
          " for CustomAlertConfig"

/-! ### The first failing stage -/

/-- No two stages have the same place. -/
theorem Stage.rank_injective : Function.Injective Stage.rank := by
  intro stage stage' h
  cases stage <;> cases stage' <;> first | rfl | cases h

/-- At most one stage fails first. -/
theorem Environment.FailsFirst.unique {env : Environment} {stage stage' : Stage}
    (h : env.FailsFirst stage) (h' : env.FailsFirst stage') : stage = stage' := by
  obtain hlt | heq | hlt := Nat.lt_trichotomy stage.rank stage'.rank
  · exact absurd h.1 (h'.2 _ hlt)
  · exact Stage.rank_injective heq
  · exact absurd h'.1 (h.2 _ hlt)

/-- A text holds one table at most. -/
theorem HoldsTable.unique {text : String} {table table' : Table Json} (h : HoldsTable text table)
    (h' : HoldsTable text table') : table = table' := by
  have hresult : objectVariable "" text = .ok table := objectVariable_iff.mpr h
  rw [objectVariable_iff.mpr h'] at hresult
  exact (Except.ok.inj hresult).symm

/-- No object in a table that a text holds has a key twice. -/
theorem HoldsTable.distinct {text : String} {table : Table Json} (h : HoldsTable text table) :
    Distinct (.object table) := by
  obtain ⟨-, rfl⟩ | hspells := h
  · exact .object List.nodup_nil nofun
  · exact hspells.distinct

/-! ### The entries -/

/-- The faults of a table of texts, seen from further out, are the offences of its values. -/
theorem toJson_faults_texts (front : List String) (members : Table Json) :
    ((tableOf text (.object members)).faults.map fun f =>
        Fault.toJson ⟨front.map .key ++ f.place, f.cause⟩) =
      members.flatMap fun member => textOffences (front ++ [member.1]) member.2 := by
  rw [faults_tableOf, List.map_flatMap]
  refine List.flatMap_congr fun member _ => ?_
  obtain ⟨key, document⟩ := member
  cases document with
  | string s => rfl
  | _ => simp [text, Checked.fail, Checked.faults, textOffences, offence, Fault.within,
      Fault.toJson, Schema.Step.toJson, Cause.word]

namespace Config

variable (url method body : String) (headers placeholders : Table Json)

/-- The document that the variables are put into. -/
abbrev document : Json :=
  .object
    [("url", .string url), ("method", .string method), ("body", .string body),
     ("headers", .object headers), ("placeholders", .object placeholders)]

/-- The faults of the document of the variables are those of its two tables. -/
theorem ofJson_faults :
    (Config.ofJson (document url method body headers placeholders)).faults =
      ((tableOf text (.object headers)).faults.map (·.within (.key "headers"))) ++
        (tableOf (tableOf text) (.object placeholders)).faults.map
          (·.within (.key "placeholders")) := by
  simp only [ofJson_parts, Checked.faults_ap, Checked.faults_within, Checked.faults_valid,
    List.nil_append, List.append_nil]

/-- **The rows of the document are its offences.** -/
theorem toJson_faults :
    (Config.ofJson (document url method body headers placeholders)).faults.map
          Fault.toJson = offences headers placeholders := by
  rw [ofJson_faults, List.map_append, List.map_map, List.map_map, offences]
  congr 1
  · exact toJson_faults_texts ["headers"] headers
  · rw [faults_tableOf, List.map_flatMap]
    refine List.flatMap_congr fun placeholder _ => ?_
    obtain ⟨name, document⟩ := placeholder
    rw [List.map_map]
    cases document with
    | object words => exact toJson_faults_texts ["placeholders", name] words
    | _ => rfl

/-- The document of the variables is refused over some fault, if it is. -/
theorem founded_ofJson :
    (Config.ofJson (document url method body headers placeholders)).Founded := by
  have hheaders := (Founded.tableOf founded_text (.object headers)).within (.key "headers")
  have hplaceholders :=
    (Founded.tableOf (Founded.tableOf founded_text) (.object placeholders)).within
      (.key "placeholders")
  rw [ofJson_parts]
  exact ((((Checked.founded_valid _).ap hheaders).ap hplaceholders).ap
    (Checked.founded_valid _)).ap (Checked.founded_valid _)

/-- No two faults stand at the same place if no key comes twice. -/
theorem places_nodup (hheaders : Distinct (.object headers))
    (hplaceholders : Distinct (.object placeholders)) :
    ((Config.ofJson (document url method body headers placeholders)).faults.map
          Fault.place).Nodup := by
  rw [ofJson_faults, List.map_append, map_place_within, map_place_within]
  refine List.nodup_append.mpr ⟨?_, ?_, ?_⟩
  · exact (places_nodup_tableOf hheaders.keys_nodup fun _ _ => places_nodup_text _).map
      fun _ _ h => (List.cons.inj h).2
  · refine (places_nodup_tableOf hplaceholders.keys_nodup fun placeholder hmem => ?_).map
      fun _ _ h => (List.cons.inj h).2
    obtain ⟨name, document⟩ := placeholder
    have hdistinct := hplaceholders.of_mem hmem
    cases document with
    | object words => exact places_nodup_tableOf hdistinct.keys_nodup fun _ _ => places_nodup_text _
    | _ => exact List.nodup_singleton _
  · intro place hplace place' hplace' heq
    obtain ⟨rest, -, rfl⟩ := List.mem_map.mp hplace
    obtain ⟨rest', -, rfl⟩ := List.mem_map.mp hplace'
    exact absurd (List.cons.inj heq).1 (by decide)

/-- A document that is refused has offences, a row for each of them. -/
theorem rows_of_faulty {faults : List Schema.Fault}
    (h : Config.ofJson (document url method body headers placeholders) = .faulty faults) :
    offences headers placeholders ≠ [] ∧ (rows faults).Perm (offences headers placeholders) := by
  have hfaults : (Config.ofJson (document url method body headers placeholders)).faults = faults :=
    congrArg Checked.faults h
  have hoffences := toJson_faults url method body headers placeholders
  rw [hfaults] at hoffences
  constructor
  · intro hnone
    obtain rfl := List.map_eq_nil_iff.mp (hoffences.trans hnone)
    obtain ⟨config, hvalid⟩ := founded_ofJson url method body headers placeholders hfaults
    rw [h] at hvalid
    cases hvalid
  · exact hoffences ▸ rows_perm faults

/-- A document that is accepted has no offences. -/
theorem offences_of_valid {config : Config}
    (h : Config.ofJson (document url method body headers placeholders) = .valid config) :
    offences headers placeholders = [] := by
  rw [← toJson_faults url method body, congrArg Checked.faults h]
  rfl

end Config

/-! ### Texts that are refused -/

/-- A text is refused because it holds no table, or over an integer of too many digits. -/
theorem objectVariable_error {name text : String} {fault : ConfigFault}
    (h : objectVariable name text = .error fault) :
    RefusesText name text fault ∨ ∃ digits, fault = .longInteger digits := by
  rw [objectVariable] at h
  split at h
  · cases h
  · split at h
    · cases h
    · next value hvalue hread =>
        cases h
        exact .inl (.inl ⟨value, read_iff.mp hread, fun table heq => hvalue table heq, rfl⟩)
    · next problem position hread =>
        cases h
        refine .inl (.inr ⟨?_, problem, position, rfl⟩)
        rintro ⟨value, hspells⟩
        rw [read_iff.mpr hspells] at hread
        cases hread
    · next digits hread =>
        cases h
        exact .inr ⟨digits, rfl⟩

/-- A text is refused exactly if it holds no table. -/
theorem objectVariable_error_iff {name text : String} :
    (∃ fault, objectVariable name text = .error fault) ↔ ¬∃ table, HoldsTable text table := by
  cases hresult : objectVariable name text with
  | ok table =>
      exact iff_of_false nofun fun hnone => hnone ⟨table, objectVariable_iff.mp hresult⟩
  | error fault =>
      refine iff_of_true ⟨fault, rfl⟩ ?_
      rintro ⟨table, hholds⟩
      rw [objectVariable_iff.mpr hholds] at hresult
      cases hresult

/-- A timeout is refused over its text, which holds no number of seconds. -/
theorem timeoutVariable_error {text : String} {fault : ConfigFault}
    (h : timeoutVariable text = .error fault) :
    fault = .notNumber text ∧ ¬∃ seconds, HoldsSeconds text seconds := by
  constructor
  · rw [timeoutVariable] at h
    split at h
    · cases h
    · split at h <;> cases h
      rfl
  · rintro ⟨seconds, hholds⟩
    rw [timeoutVariable_iff.mpr hholds] at h
    cases h

/-! ### Whole environments -/

/-- The message over entries of the wrong kind tells the number of the rows. -/
theorem ConfigFault.message_invalid (faults : List Schema.Fault) :
    (ConfigFault.invalid faults).message =
      "invalid custom alert configuration: " ++ toString (rows faults).length ++
        (if (rows faults).length = 1 then " validation error" else " validation errors") ++
        " for CustomAlertConfig" := by
  have hlength : (rows faults).length = faults.length :=
    (rows_perm faults).length_eq.trans (List.length_map _)
  have hone : " validation error" = " validation " ++ "error" := by decide
  have hmany : " validation errors" = " validation " ++ "errors" := by decide
  have hname : " for CustomAlertConfig" = " for " ++ Config.recordName := by decide
  have htext : ∀ s : String, toString s = s := fun _ => rfl
  unfold ConfigFault.message DocumentFaults.message
  dsimp only
  rw [hlength, hone, hmany, hname]
  split <;> simp only [htext, String.append_assoc]

/-- The stage that a fault is of. -/
def ConfigFault.stage? : ConfigFault → Option Stage
  | .malformed name .. | .notObject name =>
      some (if name = "CUSTOM_ALERT_HEADERS" then .headers else .placeholders)
  | .notNumber _ => some .timeout
  | .invalid _ => some .entries
  | .longInteger _ | .urlRequired => none

/-- A fault reports the stage that it is of. -/
theorem Environment.Reports.stage_eq {env : Environment} {fault : ConfigFault} {stage : Stage}
    (h : env.Reports fault stage) : fault.stage? = some stage := by
  cases stage with
  | headers =>
      obtain ⟨value, -, -, rfl⟩ | ⟨-, problem, position, rfl⟩ := h <;> rfl
  | placeholders =>
      obtain ⟨value, -, -, rfl⟩ | ⟨-, problem, position, rfl⟩ := h <;> rfl
  | timeout =>
      cases h
      rfl
  | entries =>
      obtain ⟨faults, headers, placeholders, rfl, -⟩ := h
      rfl

namespace Config

/-- Where the fault of an environment comes from. -/
theorem ofEnvironment_error_cases {env : Environment} {fault : ConfigFault}
    (h : Config.ofEnvironment env = .error fault) :
    objectVariable "CUSTOM_ALERT_HEADERS" (env.value "CUSTOM_ALERT_HEADERS") = .error fault ∨
    ∃ headers, HoldsTable (env.value "CUSTOM_ALERT_HEADERS") headers ∧
      (objectVariable "CUSTOM_ALERT_PLACEHOLDERS" (env.value "CUSTOM_ALERT_PLACEHOLDERS") =
          .error fault ∨
        ∃ placeholders, HoldsTable (env.value "CUSTOM_ALERT_PLACEHOLDERS") placeholders ∧
          (timeoutVariable (env.value "CUSTOM_ALERT_TIMEOUT") = .error fault ∨
            (∃ seconds, HoldsSeconds (env.value "CUSTOM_ALERT_TIMEOUT") seconds) ∧
              ∃ faults, fault = .invalid faults ∧
                Config.ofJson (document (env.value "CUSTOM_ALERT_URL")
                  (env.value "CUSTOM_ALERT_METHOD") (env.value "CUSTOM_ALERT_BODY") headers
                  placeholders) = .faulty faults)) := by
  rw [Config.ofEnvironment] at h
  refine (bind_error_iff.mp h).imp_right ?_
  rintro ⟨headers, hheaders, h⟩
  refine ⟨headers, objectVariable_iff.mp hheaders, (bind_error_iff.mp h).imp_right ?_⟩
  rintro ⟨placeholders, hplaceholders, h⟩
  refine ⟨placeholders, objectVariable_iff.mp hplaceholders, (bind_error_iff.mp h).imp_right ?_⟩
  rintro ⟨seconds, hseconds, h⟩
  refine ⟨⟨seconds, timeoutVariable_iff.mp hseconds⟩, ?_⟩
  dsimp only at h
  split at h
  · cases h
  · next faults hfaults =>
      cases h
      exact ⟨faults, rfl, hfaults⟩

/-- An environment that describes a configuration fails in no stage. -/
theorem not_fails_of_ok {env : Environment} {config : Config}
    (h : Config.ofEnvironment env = .ok config) (stage : Stage) : ¬env.Fails stage := by
  obtain ⟨headers, placeholders, seconds, hheaders, hplaceholders, hseconds, -⟩ :=
    (Config.ofEnvironment_iff env config).mp h
  cases stage with
  | headers => exact fun hnone => hnone ⟨_, hheaders⟩
  | placeholders => exact fun hnone => hnone ⟨_, hplaceholders⟩
  | timeout => exact fun hnone => hnone ⟨_, hseconds⟩
  | entries =>
      rintro ⟨headers', placeholders', hheaders', hplaceholders', hoffences⟩
      obtain rfl := hheaders.unique hheaders'
      obtain rfl := hplaceholders.unique hplaceholders'
      have hvalid : Config.ofJson (document "" "" "" _ _) = .valid _ :=
        Config.ofJson_iff.mpr ⟨headers, placeholders, rfl, rfl, rfl⟩
      exact hoffences (offences_of_valid _ _ _ _ _ hvalid)

/-- The fault of an environment reports its first failing stage, or is over an integer of too many
digits. -/
theorem reports_first {env : Environment} {fault : ConfigFault}
    (h : Config.ofEnvironment env = .error fault) :
    (∃ stage, env.FailsFirst stage ∧ env.Reports fault stage) ∨
      ∃ digits, fault = .longInteger digits := by
  obtain hheaders | ⟨headers, hheaders, h⟩ := ofEnvironment_error_cases h
  · refine (objectVariable_error hheaders).imp_left fun hrefuses => ⟨.headers, ⟨?_, ?_⟩, hrefuses⟩
    · exact objectVariable_error_iff.mp ⟨fault, hheaders⟩
    · exact fun earlier hearlier => absurd hearlier (Nat.not_lt_zero _)
  have hfirst : ¬env.Fails .headers := fun hnone => hnone ⟨headers, hheaders⟩
  obtain hplaceholders | ⟨placeholders, hplaceholders, h⟩ := h
  · refine (objectVariable_error hplaceholders).imp_left fun hrefuses =>
      ⟨.placeholders, ⟨?_, ?_⟩, hrefuses⟩
    · exact objectVariable_error_iff.mp ⟨fault, hplaceholders⟩
    · intro earlier hearlier
      cases earlier with
      | headers => exact hfirst
      | placeholders | timeout | entries => exact absurd hearlier (by decide)
  have hsecond : ¬env.Fails .placeholders := fun hnone => hnone ⟨placeholders, hplaceholders⟩
  obtain htimeout | ⟨htimeout, faults, rfl, hfaults⟩ := h
  · obtain ⟨rfl, hnone⟩ := timeoutVariable_error htimeout
    refine .inl ⟨.timeout, ⟨hnone, fun earlier hearlier => ?_⟩, rfl⟩
    cases earlier with
    | headers => exact hfirst
    | placeholders => exact hsecond
    | timeout | entries => exact absurd hearlier (by decide)
  · obtain ⟨hoffences, hperm⟩ := rows_of_faulty _ _ _ _ _ hfaults
    refine .inl ⟨.entries, ⟨⟨headers, placeholders, hheaders, hplaceholders, hoffences⟩, ?_⟩,
      faults, headers, placeholders, rfl, hheaders, hplaceholders, hperm, ?_, ?_⟩
    · intro earlier hearlier
      cases earlier with
      | headers => exact hfirst
      | placeholders => exact hsecond
      | timeout => exact fun hnone => hnone htimeout
      | entries => exact absurd hearlier (by decide)
    · have hplaces := places_nodup (env.value "CUSTOM_ALERT_URL") (env.value "CUSTOM_ALERT_METHOD")
        (env.value "CUSTOM_ALERT_BODY") headers placeholders hheaders.distinct
        hplaceholders.distinct
      rw [congrArg Checked.faults hfaults] at hplaces
      exact rows_nodup hplaces
    · exact ConfigFault.message_invalid faults

/-- **The first stage that fails is reported**, unless an integer of too many digits is run into.
Then nothing else is reported, and no stage is. -/
theorem ofEnvironment_reports (env : Environment) :
    (∀ stage, (∃ fault, Config.ofEnvironment env = .error fault ∧ env.Reports fault stage) ↔
      env.FailsFirst stage ∧ ¬∃ digits, env.RunsInto digits) ∧
    ∀ digits, Config.ofEnvironment env = .error (.longInteger digits) ↔ env.RunsInto digits := by
  refine ⟨fun stage => ⟨?_, ?_⟩, fun digits => ofEnvironment_long_iff⟩
  · rintro ⟨fault, hfault, hreports⟩
    obtain ⟨stage', hfirst, hreports'⟩ | ⟨digits, rfl⟩ := reports_first hfault
    · obtain rfl : stage' = stage :=
        Option.some.inj (hreports'.stage_eq.symm.trans hreports.stage_eq)
      refine ⟨hfirst, ?_⟩
      rintro ⟨digits, hruns⟩
      rw [ofEnvironment_long_iff.mpr hruns] at hfault
      cases hfault
      cases hreports.stage_eq
    · cases hreports.stage_eq
  · rintro ⟨hfirst, hruns⟩
    cases hresult : Config.ofEnvironment env with
    | ok config => exact absurd hfirst.1 (not_fails_of_ok hresult stage)
    | error fault =>
        obtain ⟨stage', hfirst', hreports⟩ | ⟨digits, rfl⟩ := reports_first hresult
        · obtain rfl := hfirst.unique hfirst'
          exact ⟨fault, rfl, hreports⟩
        · exact absurd ⟨digits, ofEnvironment_long_iff.mp hresult⟩ hruns

/-- The headers fail first, over an integer of too many digits, and the timeout is wrong as well.
No stage is reported. -/
theorem ofEnvironment_reports_no_stage :
    let env : Environment :=
      [("CUSTOM_ALERT_HEADERS",
          "\x7b\"X\":" ++ String.ofList (List.replicate 4301 '1') ++ "\x7d"),
       ("CUSTOM_ALERT_TIMEOUT", "soon")]
    env.FailsFirst .headers ∧ env.Fails .timeout ∧
      Config.ofEnvironment env = .error (.longInteger 4301) ∧
      ∀ stage, ¬env.Reports (.longInteger 4301) stage := by
  intro env
  have hruns : Json.RunsInto 4301 (env.value "CUSTOM_ALERT_HEADERS").toList .slot := by
    have hrow : IsRow (List.replicate 4301 '1') := by
      refine ⟨nofun, fun c hc => ?_⟩
      rw [List.eq_of_mem_replicate hc]
      decide
    have hlong : LongInteger 4301 (List.replicate 4301 '1' ++ ['}']) := by
      have hlimit : digitLimit < (List.replicate 4301 '1').length := by
        rw [List.length_replicate]
        decide
      have hbehind : Stops isAsciiDigit ['}'] := by
        rintro c ⟨⟩
        decide
      have h := LongInteger.of_row_append hrow nofun hlimit hbehind (by rintro c ⟨⟩; decide)
      rwa [List.length_replicate] at h
    have hkey : Spelling ['X'] [.char 'X'] :=
      .cons (.plain (by decide) (by decide) (by decide)) .nil
    have hvalue : (env.value "CUSTOM_ALERT_HEADERS").toList =
        [] ++ '{' :: ([] ++ '"' :: (['X'] ++ '"' :: ([] ++ ':' :: ([] ++
          (List.replicate 4301 '1' ++ ['}']))))) := by
      have htext : env.value "CUSTOM_ALERT_HEADERS" =
          "\x7b\"X\":" ++ String.ofList (List.replicate 4301 '1') ++ "\x7d" := rfl
      rw [htext]
      simp only [String.toList_append, String.toList_ofList]
      generalize List.replicate 4301 '1' = ones
      rfl
    rw [hvalue]
    exact .slot isOf_nil (.object (.member isOf_nil hkey isOf_nil
      (.slot isOf_nil (.number hlong))))
  refine ⟨⟨?_, fun earlier hearlier => absurd hearlier (Nat.not_lt_zero _)⟩, ?_,
    ofEnvironment_long_iff.mpr (.inl hruns), fun stage h => nomatch h.stage_eq⟩
  · have hrefused : objectVariable "CUSTOM_ALERT_HEADERS" (env.value "CUSTOM_ALERT_HEADERS") =
        .error (.longInteger 4301) := objectVariable_long_iff.mpr hruns
    exact objectVariable_error_iff.mp ⟨_, hrefused⟩
  · rintro ⟨seconds, hseconds⟩
    have hrefused : timeoutVariable "soon" = .error (.notNumber "soon") := by decide +kernel
    have hheld : timeoutVariable "soon" = .ok seconds := timeoutVariable_iff.mpr hseconds
    cases hrefused.symm.trans hheld

end Config

end AlertRelay

import AlertRelay.Environment
import AlertRelay.Proofs.Json.Reading
import AlertRelay.Proofs.Number.Float
import AlertRelay.Proofs.Schema.Checked

/-!
# Environments That Describe a Configuration

Variables describe a configuration by their texts. Two of them hold tables as JSON objects, one
holds a number of seconds, one a word for true, and the others are taken as they are. A blank text
stands for an empty table and for the standard number of seconds.

Which texts hold a table or a number is told by the grammars of JSON texts and of floating point
numbers, so that the environments that describe a configuration are told without the readers. The
grammar has no bound on the depth of a text, and no surrogates that are alone: a reader whose stack
is bounded is outside of what is told here.

## Main results

* `objectVariable_iff`, `timeoutVariable_iff`: the texts that hold a table, and a number.
* `Config.ofEnvironment_iff`: **which environments describe which configuration**.
-/

namespace AlertRelay

open Json Number Schema Text

/-! ### Texts of variables -/

/-- The table that a text holds: none in a blank text, or the one of a JSON object. -/
def HoldsTable (text : String) (table : Table Json) : Prop :=
  IsOf isBlank text.toList ∧ table = [] ∨ Spells text.toList (.slot (.object table))

/-- The seconds that a text holds: ten in a blank text, or those of a number. -/
def HoldsSeconds (text : String) (seconds : Binary64) : Prop :=
  IsOf isBlank text.toList ∧ seconds = .ofInt 10 ∨ SpellsFloat text.toList seconds

/-- What opens a value is no blank. -/
theorem Json.isInk_of_opens {c : Char} (h : opens c = true) : isInk c = true := by
  rw [opens, beginsWord, Bool.or_eq_true, Bool.or_eq_true, decide_eq_true_eq,
    decide_eq_true_eq] at h
  have hbrackets : IsOf isInk ['"', '[', '{'] := by decide
  have hletters : IsOf isInk ['n', 't', 'f', 'N', 'I', '-'] := by decide
  obtain hbracket | hletter | hdigit := h
  · exact hbrackets c hbracket
  · exact hletters c hletter
  · have hrange := range_of_isAsciiDigit hdigit
    exact isInk_of_range (by omega)

/-- A text that spells a value is not blank. -/
theorem Json.Spells.not_blank {s : List Char} {phrase : Phrase} (h : Spells s phrase) :
    ¬IsOf isBlank s := by
  obtain ⟨before, c, rest, rfl, -, hc⟩ := h.head
  exact not_isOf_isBlank (List.mem_append_right _ List.mem_cons_self) (isInk_of_opens hc)

/-- A text that spells a number is not blank. -/
theorem Number.SpellsFloat.not_blank {s : List Char} {value : Binary64} (h : SpellsFloat s value) :
    ¬IsOf isBlank s := by
  obtain ⟨-, -, hmagnitude, -⟩ := h
  obtain ⟨c, rest, rfl⟩ := List.exists_cons_of_ne_nil hmagnitude.ne_nil
  exact not_isOf_isBlank (by simp) (hmagnitude.ink c List.mem_cons_self)

/-- **The texts that hold a table** are those from which it is read. -/
theorem objectVariable_iff {name text : String} {table : Table Json} :
    objectVariable name text = .ok table ↔ HoldsTable text table := by
  rw [objectVariable, HoldsTable]
  by_cases hblank : IsOf isBlank text.toList
  · rw [if_pos (strip_eq_empty_iff.mpr hblank)]
    constructor
    · intro h
      exact .inl ⟨hblank, (Except.ok.inj h).symm⟩
    · rintro (⟨-, rfl⟩ | hspells)
      · rfl
      · exact absurd hblank hspells.not_blank
  · rw [if_neg (mt strip_eq_empty_iff.mp hblank), or_iff_right fun h => hblank h.1, ← read_iff]
    constructor
    · intro h
      split at h
      · next hread =>
          rw [hread, Except.ok.inj h]
      · cases h
      · cases h
      · cases h
    · intro h
      rw [h]

/-- **The texts that hold a number of seconds** are those from which it is read. -/
theorem timeoutVariable_iff {text : String} {seconds : Binary64} :
    timeoutVariable text = .ok seconds ↔ HoldsSeconds text seconds := by
  rw [timeoutVariable, HoldsSeconds]
  by_cases hblank : IsOf isBlank text.toList
  · rw [if_pos (strip_eq_empty_iff.mpr hblank)]
    constructor
    · intro h
      exact .inl ⟨hblank, (Except.ok.inj h).symm⟩
    · rintro (⟨-, rfl⟩ | hspells)
      · rfl
      · exact absurd hblank hspells.not_blank
  · rw [if_neg (mt strip_eq_empty_iff.mp hblank), or_iff_right fun h => hblank h.1, ← readFloat_iff]
    constructor
    · intro h
      split at h
      · next hread => rw [hread, Except.ok.inj h]
      · cases h
    · intro h
      rw [h]

/-! ### Whole environments -/

/-- The document of the variables is checked in its two tables. -/
theorem Config.ofJson_parts (url method body : String) (headers placeholders : Table Json) :
    Config.ofJson (.object
        [("url", .string url), ("method", .string method), ("body", .string body),
         ("headers", .object headers), ("placeholders", .object placeholders)]) =
      ((((Checked.valid (Config.mk url method body)).ap
        ((tableOf text (.object headers)).within (.key "headers"))).ap
        ((tableOf (tableOf text) (.object placeholders)).within (.key "placeholders"))).ap
        (.valid none)).ap (.valid none) := rfl

/-- The document of the variables is valid if its tables are. -/
theorem Config.ofJson_iff {url method body : String} {headers placeholders : Table Json}
    {config : Config} :
    Config.ofJson (.object
        [("url", .string url), ("method", .string method), ("body", .string body),
         ("headers", .object headers), ("placeholders", .object placeholders)]) = .valid config ↔
      ∃ headers' placeholders', headers = Table.mapValues .string headers' ∧
        placeholders =
          Table.mapValues (fun table => .object (Table.mapValues .string table)) placeholders' ∧
        config =
          { url, method, body, headers := headers', placeholders := placeholders' } := by
  rw [ofJson_parts]
  simp only [Checked.ap_eq_valid_iff, Checked.within_eq_valid_iff, forms_text.members,
    forms_text.table.members]
  constructor
  · rintro ⟨_, _, ⟨_, _, ⟨_, placeholders', ⟨_, headers', ⟨⟩, hheaders, rfl⟩, hplaceholders, rfl⟩,
      ⟨⟩, rfl⟩, ⟨⟩, rfl⟩
    exact ⟨headers', placeholders', hheaders, hplaceholders, rfl⟩
  · rintro ⟨headers', placeholders', hheaders, hplaceholders, rfl⟩
    exact ⟨_, _, ⟨_, _, ⟨_, placeholders', ⟨_, headers', rfl, hheaders, rfl⟩, hplaceholders, rfl⟩,
      rfl, rfl⟩, rfl, rfl⟩

/-- Two tables and a number of seconds that are held by their variables describe a configuration. -/
theorem Config.ofEnvironment_of_holds {env : Environment} {headers : Table String}
    {placeholders : Remap} {timeout : Binary64}
    (hheaders : HoldsTable (env.value "CUSTOM_ALERT_HEADERS") (Table.mapValues .string headers))
    (hplaceholders : HoldsTable (env.value "CUSTOM_ALERT_PLACEHOLDERS")
      (Table.mapValues (fun table => .object (Table.mapValues .string table)) placeholders))
    (htimeout : HoldsSeconds (env.value "CUSTOM_ALERT_TIMEOUT") timeout) :
    Config.ofEnvironment env = .ok
      { url := env.value "CUSTOM_ALERT_URL"
        method := env.value "CUSTOM_ALERT_METHOD"
        body := env.value "CUSTOM_ALERT_BODY"
        headers, placeholders
        client := some
          { timeout, insecure := flagVariable (env.value "CUSTOM_ALERT_INSECURE") } } := by
  rw [Config.ofEnvironment, objectVariable_iff.mpr hheaders, objectVariable_iff.mpr hplaceholders,
    timeoutVariable_iff.mpr htimeout]
  dsimp only [bind, Except.bind]
  rw [Config.ofJson_iff.mpr ⟨headers, placeholders, rfl, rfl, rfl⟩]
  rfl

/-- **Which environments describe which configuration.** The headers are a table of texts and the
placeholders a table of such tables, as the JSON texts have them, and the timeout is a number; if
one of the three is not held by its variable, nothing is described. The other texts are taken as
they are, up to the blanks and the case of the word for an insecure client. No depth of a JSON text
is too much. -/
theorem Config.ofEnvironment_iff (env : Environment) (config : Config) :
    Config.ofEnvironment env = .ok config ↔
      ∃ headers placeholders timeout,
        HoldsTable (env.value "CUSTOM_ALERT_HEADERS") (Table.mapValues .string headers) ∧
        HoldsTable (env.value "CUSTOM_ALERT_PLACEHOLDERS")
          (Table.mapValues (fun table => .object (Table.mapValues .string table)) placeholders) ∧
        HoldsSeconds (env.value "CUSTOM_ALERT_TIMEOUT") timeout ∧
        config =
          { url := env.value "CUSTOM_ALERT_URL"
            method := env.value "CUSTOM_ALERT_METHOD"
            body := env.value "CUSTOM_ALERT_BODY"
            headers, placeholders
            client := some
              { timeout
                insecure :=
                  decide (lower (strip (env.value "CUSTOM_ALERT_INSECURE")) ∈ ["1", "true", "yes"])
                followRedirects := false }
            defaultAlert := none } := by
  have hflag : flagVariable (env.value "CUSTOM_ALERT_INSECURE") =
      decide (lower (strip (env.value "CUSTOM_ALERT_INSECURE")) ∈ ["1", "true", "yes"]) :=
    List.contains_eq_mem _ _
  constructor
  · intro h
    rw [Config.ofEnvironment, hflag] at h
    obtain ⟨headers, hheaders, h⟩ := bind_eq_ok_iff.mp h
    obtain ⟨placeholders, hplaceholders, h⟩ := bind_eq_ok_iff.mp h
    obtain ⟨timeout, htimeout, h⟩ := bind_eq_ok_iff.mp h
    dsimp only at h
    split at h
    · next hdocument =>
        cases h
        obtain ⟨headers, placeholders, rfl, rfl, rfl⟩ := Config.ofJson_iff.mp hdocument
        exact ⟨headers, placeholders, timeout, objectVariable_iff.mp hheaders,
          objectVariable_iff.mp hplaceholders, timeoutVariable_iff.mp htimeout, rfl⟩
    · cases h
  · rintro ⟨headers, placeholders, timeout, hheaders, hplaceholders, htimeout, rfl⟩
    rw [← hflag]
    exact ofEnvironment_of_holds hheaders hplaceholders htimeout

/-- A value that is no text is not seen behind the last one of its key. -/
example :
    (Config.ofEnvironment
      [("CUSTOM_ALERT_HEADERS", "\x7b\"X-Relay\": 1, \"X-Relay\": \"on\"\x7d")]).toOption.map
        Config.headers = some [("X-Relay", "on")] := by
  decide +kernel

end AlertRelay

import AlertRelay.Proofs.Environment
import AlertRelay.Proofs.Json.Writing
import AlertRelay.Proofs.Session.Step

/-!
# Environments That Are Written for a Configuration

The variables of a configuration have its texts as they are, and its two tables as JSON texts,
each with the characters outside ASCII as escapes or as they are. They describe the configuration
that they were written for: quotes, backslashes, controls and pairs of surrogates come back, and so
does the order of the keys.

Client options are not written. They come from two variables of their own, and no request depends
on them.

## Main results

* `holdsTable_headers`, `holdsTable_placeholders`: a table is held by the text that is written.
* `Config.ofEnvironment_variables`: **what is written is read back**, and makes the same requests.
-/

namespace AlertRelay

open Http Json Number Text

/-! ### Tables -/

/-- A table keeps its keys when its values change. -/
theorem Table.keys_mapValues {α β : Type} (f : α → β) (table : Table α) :
    (table.mapValues f).map Prod.fst = table.map Prod.fst := by
  rw [Table.mapValues, List.map_map]
  rfl

/-- A table is written as an object. -/
theorem Json.Written.mapValues {α : Type} {escaping : Escaping} {encode : α → Json}
    {table : Table α} (hkeys : (table.map Prod.fst).Nodup)
    (hvalues : ∀ entry ∈ table, Written escaping (encode entry.2)) :
    Written escaping (.object (table.mapValues encode)) := by
  refine .object ?_ fun member hmember => ?_
  · rw [Table.keys_mapValues]
    exact hkeys
  · obtain ⟨entry, hentry, rfl⟩ := List.mem_map.mp hmember
    exact hvalues entry hentry

/-- A text that is written for an object holds its members. -/
theorem Json.Written.holdsTable {escaping : Escaping} {members : Table Json}
    (h : Written escaping (.object members)) :
    HoldsTable (write escaping (.object members)) members := by
  have hslot : Spells ([] ++ ((write escaping (.object members)).toList ++ []))
      (.slot (.object members)) := .slot isOf_nil h isOf_nil
  rw [List.nil_append, List.append_nil] at hslot
  exact .inr hslot

/-- No key of the tables of a configuration comes twice. -/
structure Config.HasDistinctKeys (config : Config) : Prop where
  headers : (config.headers.map Prod.fst).Nodup
  placeholders : (config.placeholders.map Prod.fst).Nodup
  words : ∀ entry ∈ config.placeholders, (entry.2.map Prod.fst).Nodup

/-- The headers as a JSON value. -/
def Config.headersObject (config : Config) : Json := .object (config.headers.mapValues .string)

/-- The placeholders as a JSON value. -/
def Config.placeholdersObject (config : Config) : Json :=
  .object (config.placeholders.mapValues fun table => .object (table.mapValues .string))

/-- The variables that are written for a configuration. -/
def Config.variables (config : Config) (headers placeholders : Escaping) : Environment :=
  [("CUSTOM_ALERT_URL", config.url),
   ("CUSTOM_ALERT_METHOD", config.method),
   ("CUSTOM_ALERT_BODY", config.body),
   ("CUSTOM_ALERT_HEADERS", write headers config.headersObject),
   ("CUSTOM_ALERT_PLACEHOLDERS", write placeholders config.placeholdersObject)]

/-- The text that is written for the headers holds them. -/
theorem holdsTable_headers {config : Config} (h : config.HasDistinctKeys) (escaping : Escaping) :
    HoldsTable (write escaping config.headersObject) (config.headers.mapValues .string) :=
  (Written.mapValues h.headers fun entry _ => .string escaping entry.2).holdsTable

/-- The text that is written for the placeholders holds them, table by table. -/
theorem holdsTable_placeholders {config : Config} (h : config.HasDistinctKeys)
    (escaping : Escaping) :
    HoldsTable (write escaping config.placeholdersObject)
      (config.placeholders.mapValues fun table => .object (table.mapValues .string)) := by
  have hwritten : Written escaping config.placeholdersObject := by
    refine .mapValues h.placeholders fun entry hentry => ?_
    exact .mapValues (h.words entry hentry) fun word _ => .string escaping word.2
  exact hwritten.holdsTable

/-! ### Reading what is written -/

/-- Sends through a client that was given agree where the requests do. -/
theorem send_given_congr {config config' : Config} {target : Target}
    (h : config.request target = config'.request target) (id : ℕ) (w : World) :
    (send config (some id) target w).1 = (send config' (some id) target w).1 ∧
      (send config (some id) target w).2.2 = (send config' (some id) target w).2.2 := by
  cases hrequest : config.request target with
  | error failure =>
      rw [send_of_request_error hrequest, send_of_request_error (h.symm.trans hrequest)]
      exact ⟨rfl, rfl⟩
  | ok request =>
      rw [send_injected hrequest, send_injected (h.symm.trans hrequest)]
      exact ⟨rfl, rfl⟩

/-- **What is written is read back.** Let no key of the tables of a configuration come twice, and
let the variables that are written for it stand before any others, among them a number of seconds
or a blank for the timeout. Then they describe the configuration, with the same texts, and with
the same tables in the same order; only its client options are those of the other variables, and
there is no default alert. It makes the same request for every target, and a send through a given
client ends alike and leaves the same world behind. -/
theorem Config.ofEnvironment_variables (config : Config) (headers placeholders : Escaping)
    (others : Environment) (seconds : Binary64) (hdistinct : config.HasDistinctKeys)
    (hseconds : HoldsSeconds (others.value "CUSTOM_ALERT_TIMEOUT") seconds) :
    ∃ described : Config,
      Config.ofEnvironment (config.variables headers placeholders ++ others) = .ok described ∧
      described =
        { url := config.url
          method := config.method
          body := config.body
          headers := config.headers
          placeholders := config.placeholders
          client := some
            { timeout := seconds
              insecure := flagVariable (others.value "CUSTOM_ALERT_INSECURE")
              followRedirects := false }
          defaultAlert := none } ∧
      ∀ target, described.request target = config.request target ∧
        ∀ id w,
          (send described (some id) target w).1 = (send config (some id) target w).1 ∧
            (send described (some id) target w).2.2 = (send config (some id) target w).2.2 := by
  refine ⟨_, ofEnvironment_of_holds ?_ ?_ ?_, rfl, fun target => ⟨rfl, send_given_congr rfl⟩⟩
  · exact holdsTable_headers hdistinct headers
  · exact holdsTable_placeholders hdistinct placeholders
  · exact hseconds

/-- Quotes, a backslash, controls, an accent and a character beyond the basic plane, with escapes
in the headers and as they are in the placeholders. -/
theorem Config.ofEnvironment_variables_unusual :
    let config : Config :=
      { url := "http://h/\"", headers := [("X-\\", "\x01\t\""), ("A", "é😀")]
        placeholders := [("b", [("😀", "\n"), ("a", "")]), ("a", [])] }
    let others : Environment := [("CUSTOM_ALERT_INSECURE", " YES ")]
    config.HasDistinctKeys ∧
      HoldsSeconds (others.value "CUSTOM_ALERT_TIMEOUT") (.ofInt 10) ∧
      ∃ described : Config,
        Config.ofEnvironment (config.variables .ascii .minimal ++ others) = .ok described ∧
        described.headers = config.headers ∧ described.placeholders = config.placeholders ∧
        described.client = some { insecure := true } := by
  intro config others
  have hdistinct : config.HasDistinctKeys := ⟨by decide, by decide, by decide⟩
  have hseconds : HoldsSeconds (others.value "CUSTOM_ALERT_TIMEOUT") (.ofInt 10) := .inl ⟨nofun, rfl⟩
  obtain ⟨described, hdescribed, rfl, -⟩ :=
    Config.ofEnvironment_variables config .ascii .minimal others (.ofInt 10) hdistinct hseconds
  have hinsecure : flagVariable (others.value "CUSTOM_ALERT_INSECURE") = true := by decide +kernel
  exact ⟨hdistinct, hseconds, _, hdescribed, rfl, rfl, by rw [hinsecure]; rfl⟩

end AlertRelay

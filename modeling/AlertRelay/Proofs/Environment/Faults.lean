import AlertRelay.Proofs.Environment
import AlertRelay.Proofs.Json.Overlong

/-!
# Environments That Are Refused

Variables that describe no configuration are refused with a fault. All faults but one are errors of
the configuration, which a caller of this layer expects: a table that is no JSON, one that is no
object, a number that is none, and entries of the wrong kind.

The other one passes through unchanged from the reader of JSON texts. Where the headers run into an
integer of more digits than can be converted, or the headers are fine and the placeholders run into
one, the refusal is an error of the conversion.

## Main results

* `objectVariable_long_iff`: the texts of a table that run into an integer of too many digits.
* `Config.ofEnvironment_long_iff`: the environments that do.
* `Config.ofEnvironment_kind_iff`: **which refusals are errors of the configuration**.
-/

namespace AlertRelay

open Json Number Text

/-! ### Texts of variables -/

/-- A text that runs into an integer is not blank. -/
theorem Json.RunsInto.not_blank {digits : ℕ} {s : List Char} {place : Place}
    (h : RunsInto digits s place) : ¬IsOf isBlank s := by
  obtain ⟨before, c, rest, rfl, -, hc⟩ := h.head
  exact not_isOf_isBlank (List.mem_append_right _ List.mem_cons_self) (isInk_of_opens hc)

/-- The text of a table gives up over an integer exactly if it runs into one. -/
theorem objectVariable_long_iff {name text : String} {digits : ℕ} :
    objectVariable name text = .error (.longInteger digits) ↔
      RunsInto digits text.toList .slot := by
  rw [objectVariable]
  by_cases hblank : IsOf isBlank text.toList
  · rw [if_pos (strip_eq_empty_iff.mpr hblank)]
    refine iff_of_false ?_ fun h => h.not_blank hblank
    intro h
    cases h
  · rw [if_neg (mt strip_eq_empty_iff.mp hblank), ← read_long_iff]
    constructor
    · intro h
      split at h
      · cases h
      · cases h
      · cases h
      · next hread =>
          cases h
          exact hread
    · intro h
      rw [h]

/-- The timeout is read as a number of any length. -/
theorem timeoutVariable_ne_long {text : String} {digits : ℕ} :
    timeoutVariable text ≠ .error (.longInteger digits) := by
  intro h
  rw [timeoutVariable] at h
  split at h
  · cases h
  · split at h <;> cases h

/-! ### Whole environments -/

/-- The variables run into an integer of too many digits: in the headers, or in the placeholders
where the headers hold a table. -/
def Environment.RunsInto (env : Environment) (digits : ℕ) : Prop :=
  Json.RunsInto digits (env.value "CUSTOM_ALERT_HEADERS").toList .slot ∨
    (∃ table, HoldsTable (env.value "CUSTOM_ALERT_HEADERS") table) ∧
      Json.RunsInto digits (env.value "CUSTOM_ALERT_PLACEHOLDERS").toList .slot

/-- The environments that are refused over an integer of too many digits. -/
theorem Config.ofEnvironment_long_iff {env : Environment} {digits : ℕ} :
    Config.ofEnvironment env = .error (.longInteger digits) ↔ env.RunsInto digits := by
  rw [Config.ofEnvironment, Environment.RunsInto]
  constructor
  · intro h
    obtain hheaders | ⟨headers, hheaders, h⟩ := bind_error_iff.mp h
    · exact .inl (objectVariable_long_iff.mp hheaders)
    · obtain hplaceholders | ⟨placeholders, -, h⟩ := bind_error_iff.mp h
      · exact .inr ⟨⟨headers, objectVariable_iff.mp hheaders⟩,
          objectVariable_long_iff.mp hplaceholders⟩
      · obtain htimeout | ⟨timeout, -, h⟩ := bind_error_iff.mp h
        · exact absurd htimeout timeoutVariable_ne_long
        · -- What is left are the entries of the two tables, whose faults are of their own.
          dsimp only at h
          split at h <;> cases h
  · rintro (hheaders | ⟨⟨headers, hheaders⟩, hplaceholders⟩)
    · rw [objectVariable_long_iff.mpr hheaders]
      rfl
    · rw [objectVariable_iff.mpr hheaders, objectVariable_long_iff.mpr hplaceholders]
      rfl

/-- Only an integer of too many digits is no fault of the configuration. -/
theorem ConfigFault.kind_eq_conversion_iff {fault : ConfigFault} :
    fault.kind = .conversion ↔ ∃ digits, fault = .longInteger digits := by
  cases fault with
  | longInteger digits => exact iff_of_true rfl ⟨digits, rfl⟩
  | malformed | notObject | notNumber | invalid | urlRequired =>
      refine iff_of_false nofun ?_
      rintro ⟨_, ⟨⟩⟩

/-- **Which refusals are errors of the configuration.** Whatever the texts of the variables are, a
configuration is described, or the refusal is an error of the configuration, unless the variables
run into an integer of too many digits. Then the refusal is an error of a conversion, and it tells
the number of these digits. -/
theorem Config.ofEnvironment_kind_iff (env : Environment) :
    ((∃ config, Config.ofEnvironment env = .ok config) ∨
        (∃ fault, Config.ofEnvironment env = .error fault ∧ fault.kind = .configuration) ↔
      ¬∃ digits, env.RunsInto digits) ∧
    ∀ fault, Config.ofEnvironment env = .error fault ∧ fault.kind = .conversion ↔
      ∃ digits, env.RunsInto digits ∧ fault = .longInteger digits := by
  constructor
  · constructor
    · rintro (⟨config, hconfig⟩ | ⟨fault, hfault, hkind⟩) ⟨digits, hruns⟩
      · rw [ofEnvironment_long_iff.mpr hruns] at hconfig
        cases hconfig
      · rw [ofEnvironment_long_iff.mpr hruns] at hfault
        cases hfault
        cases hkind
    · intro hnone
      cases hresult : Config.ofEnvironment env with
      | ok config => exact .inl ⟨config, rfl⟩
      | error fault =>
          refine .inr ⟨fault, rfl, ?_⟩
          cases hkind : fault.kind with
          | configuration => rfl
          | conversion =>
              obtain ⟨digits, rfl⟩ := ConfigFault.kind_eq_conversion_iff.mp hkind
              exact absurd ⟨digits, ofEnvironment_long_iff.mp hresult⟩ hnone
  · intro fault
    constructor
    · rintro ⟨hfault, hkind⟩
      obtain ⟨digits, rfl⟩ := ConfigFault.kind_eq_conversion_iff.mp hkind
      exact ⟨digits, ofEnvironment_long_iff.mp hfault, rfl⟩
    · rintro ⟨digits, hruns, rfl⟩
      exact ⟨ofEnvironment_long_iff.mpr hruns, rfl⟩

/-- Headers that are one integer of more digits than can be converted. -/
theorem Config.ofEnvironment_passes_on_conversion :
    let env : Environment :=
      [("CUSTOM_ALERT_HEADERS", String.ofList (List.replicate 4301 '1'))]
    Config.ofEnvironment env = .error (.longInteger 4301) ∧
      (ConfigFault.longInteger 4301).kind ≠ .configuration := by
  intro env
  have hrow : IsRow (List.replicate 4301 '1') := by
    refine ⟨nofun, fun c hc => ?_⟩
    rw [List.eq_of_mem_replicate hc]
    decide
  have hlong : LongInteger 4301 (List.replicate 4301 '1') := by
    have h := LongInteger.of_row hrow nofun (by rw [List.length_replicate]; decide)
    rwa [List.length_replicate] at h
  refine ⟨Config.ofEnvironment_long_iff.mpr (.inl ?_), nofun⟩
  have hvalue : (env.value "CUSTOM_ALERT_HEADERS").toList = [] ++ List.replicate 4301 '1' :=
    String.toList_ofList
  rw [hvalue]
  exact .slot isOf_nil (.number hlong)

end AlertRelay

import Camouflage.Proofs.Port
import Camouflage.Proofs.Text
import Camouflage.Settings

namespace Camouflage

namespace Arguments

variable {flag value : String} {number : UInt16} {fault : Port.Fault}

lemma port_eq_ok_iff : port flag value = .ok number ↔ Port.Denotes value.toList number := by
  rw [← Port.ofText_eq_ok_iff, port]
  split <;> simp_all

lemma port_eq_error_iff : port flag value = .error (.badPort fault flag value) ↔
    Port.ofText value.toList = .error fault := by
  rw [port]
  split <;> simp_all

end Arguments

namespace Settings

variable {name value : String} {number : UInt16} {error : ConfigError}

lemma portOfText_eq_none_iff :
    portOfText name value = .ok none ↔ Text.AllBlank value.toList := by
  rw [← Text.trim_eq_nil_iff]
  simp only [portOfText]
  split
  · next hb => exact ⟨fun _ => hb, fun _ => rfl⟩
  · next hb => split <;> exact ⟨nofun, fun h => absurd h hb⟩

lemma portOfText_eq_some_iff : portOfText name value = .ok (some number) ↔
    Port.Denotes (Text.trim value.toList) number := by
  simp only [portOfText]
  split
  · next hb =>
    rw [hb]
    exact ⟨nofun, fun h => absurd rfl h.1.1⟩
  · rw [Port.denotes_iff]
    split <;> simp_all

lemma portOfText_eq_error_iff : portOfText name value = .error error ↔
    ¬ Text.AllBlank value.toList ∧ (∀ number, ¬ Port.Denotes (Text.trim value.toList) number) ∧
      error = .invalidPort name value := by
  have hfound : ∀ found, portOfText name value = .error found → found = .invalidPort name value := by
    intro found h
    simp only [portOfText] at h
    split at h
    · cases h
    · split at h <;> cases h <;> rfl
  constructor
  · intro h
    refine ⟨?_, ?_, hfound error h⟩
    · intro hb
      cases h.symm.trans (portOfText_eq_none_iff.mpr hb)
    · intro number hd
      cases h.symm.trans (portOfText_eq_some_iff.mpr hd)
  · rintro ⟨hb, hd, rfl⟩
    cases h : portOfText name value with
    | ok number? =>
      cases number? with
      | none => exact absurd (portOfText_eq_none_iff.mp h) hb
      | some number => exact absurd (portOfText_eq_some_iff.mp h) (hd number)
    | error found => rw [hfound found h]

/-- A flag takes just the texts of ports, and tells zero, too large a number and all else apart. A variable
takes the same texts with blanks around them; if it holds nothing but blanks there is no port, and any
other text is refused as it stands. -/
theorem port_texts_agree (flag name value : String) :
    (∀ number, Arguments.port flag value = .ok number ↔ Port.Denotes value.toList number) ∧
    (Arguments.port flag value = .error (.badPort .zero flag value) ↔ Port.IsZero value.toList) ∧
    (Arguments.port flag value = .error (.badPort .tooLarge flag value) ↔
      Port.Exceeds value.toList) ∧
    (Arguments.port flag value = .error (.badPort .malformed flag value) ↔
      (∀ number, ¬ Port.Denotes value.toList number) ∧ ¬ Port.IsZero value.toList ∧
        ¬ Port.Exceeds value.toList) ∧
    (∀ number, portOfText name value = .ok (some number) ↔
      Arguments.port flag (.ofList (Text.trim value.toList)) = .ok number) ∧
    (portOfText name value = .ok none ↔ ∀ c ∈ value.toList, Text.isBlank c) ∧
    (∀ error, portOfText name value = .error error ↔
      (∃ c ∈ value.toList, ¬ Text.isBlank c) ∧
      (∀ number, Arguments.port flag (.ofList (Text.trim value.toList)) ≠ .ok number) ∧
      error = .invalidPort name value) := by
  have htrimmed : ∀ number, Arguments.port flag (.ofList (Text.trim value.toList)) = .ok number ↔
      Port.Denotes (Text.trim value.toList) number := by
    intro number
    rw [Arguments.port_eq_ok_iff, String.toList_ofList]
  refine ⟨fun _ => Arguments.port_eq_ok_iff, ?_, ?_, ?_, ?_, portOfText_eq_none_iff, ?_⟩
  · rw [Arguments.port_eq_error_iff, Port.ofText_eq_zero_iff]
  · rw [Arguments.port_eq_error_iff, Port.ofText_eq_tooLarge_iff]
  · rw [Arguments.port_eq_error_iff, Port.ofText_eq_malformed_iff]
  · intro number
    rw [htrimmed, portOfText_eq_some_iff]
  · intro error
    rw [portOfText_eq_error_iff, Text.AllBlank]
    simp only [ne_eq, htrimmed, not_forall, exists_prop]

end Settings

end Camouflage

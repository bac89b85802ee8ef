import Camouflage.Port
import Camouflage.Proofs.Decimal

namespace Camouflage.Port

variable {text : List Char} {port : UInt16}

lemma denotes_iff : Denotes text port ↔
    ∃ n, Decimal.read largest text = .ok n ∧ n ≠ 0 ∧ UInt16.ofNat n = port := by
  constructor
  · rintro ⟨hd, hv, hz⟩
    refine ⟨port.toNat, ?_, fun hn => hz (UInt16.toNat_inj.mp hn), UInt16.ofNat_toNat⟩
    exact Decimal.read_eq_ok_iff.mpr ⟨hd, hv, Nat.le_of_lt_succ port.toNat_lt⟩
  · rintro ⟨n, hr, hz, rfl⟩
    obtain ⟨hd, hv, hb⟩ := Decimal.read_eq_ok_iff.mp hr
    have hn : (UInt16.ofNat n).toNat = n := UInt16.toNat_ofNat_of_lt' (Nat.lt_succ_of_le hb)
    refine ⟨hd, hv.trans hn.symm, ?_⟩
    intro he
    rw [he] at hn
    exact hz hn.symm

lemma ofText_eq_ok_iff : ofText text = .ok port ↔ Denotes text port := by
  rw [denotes_iff]
  unfold ofText
  split <;> simp_all

def IsZero (text : List Char) : Prop :=
  Decimal.IsNumeral (Decimal.unsigned text) ∧ Decimal.value (Decimal.unsigned text) = 0

def Exceeds (text : List Char) : Prop :=
  ∃ digits, digits <+: Decimal.unsigned text ∧ (∀ c ∈ digits, c.isDigit) ∧
    largest < Decimal.value digits

lemma ofText_eq_zero_iff : ofText text = .error .zero ↔ IsZero text := by
  have hr : ofText text = .error .zero ↔ Decimal.read largest text = .ok 0 := by
    unfold ofText
    split <;> simp_all
  rw [hr, Decimal.read_eq_ok_iff]
  exact ⟨fun h => ⟨h.1, h.2.1⟩, fun h => ⟨h.1, h.2, Nat.zero_le _⟩⟩

lemma ofText_eq_tooLarge_iff : ofText text = .error .tooLarge ↔ Exceeds text := by
  have hr : ofText text = .error .tooLarge ↔ Decimal.read largest text = .error .tooLarge := by
    unfold ofText
    split <;> simp_all
  rw [hr]
  exact Decimal.read_eq_tooLarge_iff

lemma ofText_eq_malformed_iff : ofText text = .error .malformed ↔
    (∀ port, ¬ Denotes text port) ∧ ¬ IsZero text ∧ ¬ Exceeds text := by
  rw [← ofText_eq_zero_iff, ← ofText_eq_tooLarge_iff]
  constructor
  · intro h
    refine ⟨?_, by rw [h]; nofun, by rw [h]; nofun⟩
    intro port hd
    cases h.symm.trans (ofText_eq_ok_iff.mpr hd)
  · rintro ⟨hd, hz, ht⟩
    cases h : ofText text with
    | ok port => exact absurd (ofText_eq_ok_iff.mp h) (hd port)
    | error fault =>
      cases fault with
      | zero => exact absurd h hz
      | tooLarge => exact absurd h ht
      | malformed => rfl

end Camouflage.Port

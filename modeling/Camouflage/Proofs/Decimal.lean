import Camouflage.Decimal.Whole
import Mathlib.Tactic.Lemma

namespace Camouflage.Decimal

variable {c : Char} {digits text : List Char} {bound n : Nat}

def valueFrom (start : Nat) (digits : List Char) : Nat :=
  digits.foldl (fun n c => 10 * n + (c.toNat - '0'.toNat)) start

lemma digit?_of_isDigit (h : c.isDigit) : digit? c = some (c.toNat - '0'.toNat) := if_pos h

lemma le_valueFrom (start : Nat) (digits : List Char) : start ≤ valueFrom start digits := by
  induction digits generalizing start with
  | nil => exact Nat.le_refl _
  | cons c digits ih =>
    refine Nat.le_trans ?_ (ih (10 * start + (c.toNat - '0'.toNat)))
    omega

lemma readDigits_of_isDigit {start : Nat} (hd : ∀ c ∈ digits, c.isDigit)
    (hb : valueFrom start digits ≤ bound) :
    readDigits bound start digits = .ok (valueFrom start digits) := by
  induction digits generalizing start with
  | nil => rfl
  | cons c digits ih =>
    have hle := Nat.le_trans (le_valueFrom (10 * start + (c.toNat - '0'.toNat)) digits) hb
    simp only [readDigits, digit?_of_isDigit (hd c List.mem_cons_self)]
    rw [if_neg (Nat.not_lt_of_le hle)]
    exact ih (fun d hm => hd d (List.mem_cons_of_mem _ hm)) hb

lemma readDigits_eq_ok_iff {start : Nat} (hs : start ≤ bound) : readDigits bound start digits = .ok n ↔
    (∀ c ∈ digits, c.isDigit) ∧ valueFrom start digits = n ∧ n ≤ bound := by
  constructor
  · intro h
    induction digits generalizing start with
    | nil =>
      cases h
      exact ⟨List.forall_mem_nil _, rfl, hs⟩
    | cons c digits ih =>
      by_cases hc : c.isDigit
      · simp only [readDigits, digit?_of_isDigit hc] at h
        split at h
        · cases h
        · next hb =>
          obtain ⟨hd, hv, hn⟩ := ih (Nat.le_of_not_lt hb) h
          exact ⟨List.forall_mem_cons.mpr ⟨hc, hd⟩, hv, hn⟩
      · have hn : digit? c = none := if_neg hc
        simp only [readDigits, hn] at h
        cases h
  · rintro ⟨hd, rfl, hb⟩
    exact readDigits_of_isDigit hd hb

lemma unsigned_of_ne (h : ∀ rest, digits ≠ '+' :: rest) : unsigned digits = digits := by
  unfold unsigned
  split
  · next rest => exact absurd rfl (h rest)
  · rfl

lemma read_eq_ok_iff : read bound digits = .ok n ↔
    IsNumeral (unsigned digits) ∧ value (unsigned digits) = n ∧ n ≤ bound := by
  have hread : ∀ {digits : List Char}, digits ≠ [] → (readDigits bound 0 digits = .ok n ↔
      IsNumeral digits ∧ value digits = n ∧ n ≤ bound) := by
    intro digits hne
    rw [readDigits_eq_ok_iff (Nat.zero_le _), IsNumeral, and_assoc]
    exact (and_iff_right hne).symm
  have hempty : ∀ {fault : Fault}, (Except.error fault = Except.ok n) ↔
      IsNumeral [] ∧ value [] = n ∧ n ≤ bound := by
    intro fault
    exact ⟨nofun, fun h => absurd rfl h.1.1⟩
  unfold read
  split
  · exact hempty
  · exact hempty
  · next hne => exact hread hne
  · next hne _ hplus =>
    rw [unsigned_of_ne hplus]
    exact hread hne

def Overruns (bound start : Nat) (text : List Char) : Prop :=
  ∃ digits, digits <+: text ∧ (∀ c ∈ digits, c.isDigit) ∧ bound < valueFrom start digits

lemma not_overruns_nil {start : Nat} (hs : start ≤ bound) : ¬ Overruns bound start [] := by
  rintro ⟨digits, hp, -, hb⟩
  rw [List.prefix_nil.mp hp] at hb
  exact Nat.not_lt_of_le hs hb

lemma overruns_cons_iff {start : Nat} (hs : start ≤ bound) : Overruns bound start (c :: text) ↔
    c.isDigit ∧ (bound < 10 * start + (c.toNat - '0'.toNat) ∨
      Overruns bound (10 * start + (c.toNat - '0'.toNat)) text) := by
  constructor
  · rintro ⟨digits, hp, hd, hb⟩
    rcases List.prefix_cons_iff.mp hp with rfl | ⟨rest, rfl, hr⟩
    · exact absurd hb (Nat.not_lt_of_le hs)
    · obtain ⟨hc, hd⟩ := List.forall_mem_cons.mp hd
      exact ⟨hc, Or.inr ⟨rest, hr, hd, hb⟩⟩
  · rintro ⟨hc, hb | ⟨digits, hp, hd, hb⟩⟩
    · exact ⟨[c], ⟨text, rfl⟩, List.forall_mem_singleton.mpr hc, hb⟩
    · exact ⟨c :: digits, List.cons_prefix_cons.mpr ⟨rfl, hp⟩, List.forall_mem_cons.mpr ⟨hc, hd⟩, hb⟩

lemma readDigits_eq_tooLarge_iff {start : Nat} (hs : start ≤ bound) :
    readDigits bound start text = .error .tooLarge ↔ Overruns bound start text := by
  induction text generalizing start with
  | nil => exact ⟨nofun, fun h => absurd h (not_overruns_nil hs)⟩
  | cons c text ih =>
    rw [overruns_cons_iff hs]
    by_cases hc : c.isDigit
    · simp only [readDigits, digit?_of_isDigit hc]
      by_cases hb : bound < 10 * start + (c.toNat - '0'.toNat)
      · rw [if_pos hb]
        exact ⟨fun _ => ⟨hc, Or.inl hb⟩, fun _ => rfl⟩
      · rw [if_neg hb, ih (Nat.le_of_not_lt hb)]
        exact ⟨fun h => ⟨hc, Or.inr h⟩, fun h => h.2.resolve_left hb⟩
    · have hn : digit? c = none := if_neg hc
      simp only [readDigits, hn]
      exact ⟨nofun, fun h => absurd h.1 hc⟩

lemma read_eq_tooLarge_iff :
    read bound text = .error .tooLarge ↔ Overruns bound 0 (unsigned text) := by
  have hempty : ¬ Overruns bound 0 [] := not_overruns_nil (Nat.zero_le _)
  unfold read
  split
  · exact ⟨nofun, fun h => absurd h hempty⟩
  · exact ⟨nofun, fun h => absurd h hempty⟩
  · exact readDigits_eq_tooLarge_iff (Nat.zero_le _)
  · next hplus =>
    rw [unsigned_of_ne hplus]
    exact readDigits_eq_tooLarge_iff (Nat.zero_le _)

lemma IsNumeral.unsigned (h : IsNumeral digits) : unsigned digits = digits := by
  apply unsigned_of_ne
  rintro rest rfl
  exact absurd (h.2 '+' List.mem_cons_self) (by decide)

lemma isNumeral_toDigits (n : Nat) : IsNumeral (Nat.toDigits 10 n) :=
  ⟨Nat.toDigits_ne_nil, fun _ hm => Nat.isDigit_of_mem_toDigits (by decide) (by decide) hm⟩

lemma value_toDigits (n : Nat) : value (Nat.toDigits 10 n) = n := by
  induction n using Nat.strongRecOn with
  | ind n ih =>
    have hc : ∀ d < 10, d.digitChar.toNat - '0'.toNat = d := fun d hd =>
      Nat.toNat_digitChar_sub_48_of_lt_ten hd
    by_cases hn : n < 10
    · rw [Nat.toDigits_of_lt_base hn]
      exact (Nat.zero_add _).trans (hc n hn)
    · have hle := Nat.le_of_not_lt hn
      have hi := ih (n / 10) (Nat.div_lt_self (by omega) (by decide))
      rw [Nat.toDigits_of_base_le (by decide) hle, value, List.foldl_append]
      change 10 * value (Nat.toDigits 10 (n / 10)) + _ = n
      rw [hi, hc _ (Nat.mod_lt _ (by decide))]
      omega

lemma head_toDigits_ne (h : 0 < n) : (Nat.toDigits 10 n).head? ≠ some '0' := by
  induction n using Nat.strongRecOn with
  | ind n ih =>
    by_cases hn : n < 10
    · rw [Nat.toDigits_of_lt_base hn]
      intro he
      have hz := Nat.digitChar_eq_zero.mp (Option.some.inj he)
      omega
    · have hle := Nat.le_of_not_lt hn
      have hi := ih (n / 10) (Nat.div_lt_self h (by decide)) (by omega)
      obtain ⟨c, digits, hc⟩ := List.exists_cons_of_ne_nil (Nat.toDigits_ne_nil (n := n / 10) (b := 10))
      rw [Nat.toDigits_of_base_le (by decide) hle, hc]
      rw [hc] at hi
      exact hi

end Camouflage.Decimal

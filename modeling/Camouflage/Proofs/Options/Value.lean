import Camouflage.Options.Inline
import Camouflage.Proofs.Decimal
import Camouflage.Proofs.Options
import Camouflage.Proofs.Text

namespace Camouflage.Options

variable {pair : Pair} {setting : Setting} {field : Field} {name : List Char}

/-- At most `2 ^ 64 - 1` in digits, maybe with a plus sign in front and blanks around it. -/
def IsHint (text : List Char) : Prop :=
  Decimal.IsNumeral (Decimal.unsigned (Text.trim text)) ∧
    Decimal.value (Decimal.unsigned (Text.trim text)) ≤ Nat.pow 2 64 - 1

def IsSwitch (text : List Char) : Prop :=
  Text.sameIgnoringCase (Text.trim text) "true".toList ∨
    Text.sameIgnoringCase (Text.trim text) "false".toList

def IsBrowser (text : List Char) : Prop :=
  ∃ browser : Browser, Text.sameIgnoringCase text browser.name.toList

def Setting.IsText : Setting → List Char → Prop
  | .serverName content, text | .key content, text => text = content.toList
  | .ticketTimeHint seconds, text => Decimal.IsNumeral (Decimal.unsigned (Text.trim text)) ∧
      Decimal.value (Decimal.unsigned (Text.trim text)) = seconds.toNat
  | .browser choice, text => Text.sameIgnoringCase text choice.name.toList
  | .fastOpen true, text => Text.sameIgnoringCase (Text.trim text) "true".toList
  | .fastOpen false, text => Text.sameIgnoringCase (Text.trim text) "false".toList

namespace Pair

def IsOf (pair : Pair) (field : Field) : Prop := pair.key = field.name.toList

lemma IsOf.unique {field' : Field} (h : pair.IsOf field) (h' : pair.IsOf field') : field = field' :=
  Field.name_injective (h.symm.trans h')

inductive IsBad (pair : Pair) : Prop
  | hint : pair.IsOf .ticketTimeHint → ¬ IsHint pair.value → IsBad pair
  | switch : pair.IsOf .fastOpen → ¬ IsSwitch pair.value → IsBad pair

inductive Fails (pair : Pair) : Json.Fault → Prop
  | unknownKey : (∀ field, ¬ pair.IsOf field) →
      Fails pair (.unknownField pair.key (Field.all.map Field.name))
  | browser : pair.IsOf .browser → ¬ IsBrowser pair.value →
      Fails pair (.badValue (Browser.unknownText (.ofList pair.value)))

inductive Says (pair : Pair) : Except PairFault Setting → Prop
  | setting {setting : Setting} : pair.IsOf setting.field → setting.IsText pair.value →
      Says pair (.ok setting)
  | invalid : pair.IsBad → Says pair (.error .invalid)
  | unknown {fault : Json.Fault} : pair.Fails fault → Says pair (.error (.unknown fault))

end Pair

lemma Field.ofName?_eq_some_iff : ofName? name = some field ↔ name = field.name.toList := by
  constructor
  · intro h
    have hs := List.find?_some h
    exact (beq_iff_eq.mp hs).symm
  · rintro rfl
    exact ofName?_name field

lemma boolean?_eq_true_iff {text : List Char} :
    boolean? text = some true ↔ Text.sameIgnoringCase text "true".toList := by
  unfold boolean?
  split
  · next h => exact ⟨fun _ => h, fun _ => rfl⟩
  · next h =>
    refine ⟨fun he => ?_, fun ht => absurd ht h⟩
    split at he <;> cases he

lemma boolean?_eq_false_iff {text : List Char} :
    boolean? text = some false ↔ Text.sameIgnoringCase text "false".toList := by
  unfold boolean?
  split
  · next h =>
    refine ⟨nofun, fun hf => ?_⟩
    have he := (beq_iff_eq.mp h).symm.trans (beq_iff_eq.mp hf)
    exact absurd he (by decide)
  · split
    · next h => exact ⟨fun _ => h, fun _ => rfl⟩
    · next h => exact ⟨nofun, fun hf => absurd hf h⟩

namespace Pair

lemma setting_of_isText (hk : pair.IsOf setting.field) (ht : setting.IsText pair.value) :
    pair.setting = .ok setting := by
  have hf := Field.ofName?_eq_some_iff.mpr hk
  cases setting with
  | serverName content | key content =>
    simp only [Setting.field] at hf
    simp only [Setting.IsText] at ht
    simp only [setting, hf, ht, String.ofList_toList]
  | ticketTimeHint seconds =>
    have hb : seconds.toNat ≤ greatestHint := Nat.le_sub_one_of_lt seconds.toNat_lt
    have hr := Decimal.read_eq_ok_iff.mpr ⟨ht.1, ht.2, hb⟩
    simp only [Setting.field] at hf
    simp only [setting, hf, hr, UInt64.ofNat_toNat]
  | browser choice =>
    have hb : Browser.ofName? (.ofList pair.value) = some choice := by
      rw [Browser.ofName?_eq_some_iff, ← Browser.sameIgnoringCase_name, String.toList_ofList]
      exact ht
    simp only [Setting.field] at hf
    simp only [setting, hf, hb]
  | fastOpen value =>
    have hb : boolean? (Text.trim pair.value) = some value := by
      cases value with
      | true => exact boolean?_eq_true_iff.mpr ht
      | false => exact boolean?_eq_false_iff.mpr ht
    simp only [Setting.field] at hf
    simp only [setting, hf, hb]

lemma setting_of_isBad (h : pair.IsBad) : pair.setting = .error .invalid := by
  cases h with
  | hint hk hn =>
    have hf := Field.ofName?_eq_some_iff.mpr hk
    cases hr : Decimal.read greatestHint (Text.trim pair.value) with
    | ok seconds =>
      obtain ⟨hd, hv, hb⟩ := Decimal.read_eq_ok_iff.mp hr
      rw [← hv] at hb
      exact absurd ⟨hd, hb⟩ hn
    | error fault => simp only [setting, hf, hr]
  | switch hk hn =>
    have hf := Field.ofName?_eq_some_iff.mpr hk
    cases hb : boolean? (Text.trim pair.value) with
    | some value =>
      cases value with
      | true => exact absurd (Or.inl (boolean?_eq_true_iff.mp hb)) hn
      | false => exact absurd (Or.inr (boolean?_eq_false_iff.mp hb)) hn
    | none => simp only [setting, hf, hb]

lemma setting_of_fails {fault : Json.Fault} (h : pair.Fails fault) :
    pair.setting = .error (.unknown fault) := by
  cases h with
  | unknownKey hn =>
    have hf : Field.ofName? pair.key = none := by
      rw [Option.eq_none_iff_forall_ne_some]
      intro field he
      exact hn field (Field.ofName?_eq_some_iff.mp he)
    simp only [setting, hf]
  | browser hk hn =>
    have hf := Field.ofName?_eq_some_iff.mpr hk
    have hb : Browser.ofName? (.ofList pair.value) = none := by
      rw [Option.eq_none_iff_forall_ne_some]
      intro browser he
      rw [Browser.ofName?_eq_some_iff, ← Browser.sameIgnoringCase_name, String.toList_ofList] at he
      exact hn ⟨browser, he⟩
    simp only [setting, hf, hb]

lemma exists_says (pair : Pair) : ∃ result, pair.Says result := by
  by_cases hk : ∃ field, pair.IsOf field
  · obtain ⟨field, hk⟩ := hk
    cases field with
    | serverName =>
      exact ⟨.ok (.serverName (.ofList pair.value)), .setting hk String.toList_ofList.symm⟩
    | key => exact ⟨.ok (.key (.ofList pair.value)), .setting hk String.toList_ofList.symm⟩
    | ticketTimeHint =>
      by_cases hv : IsHint pair.value
      · obtain ⟨hd, hb⟩ := hv
        refine ⟨.ok (.ticketTimeHint (.ofNat (Decimal.value (Decimal.unsigned (Text.trim pair.value))))),
          .setting hk ⟨hd, (UInt64.toNat_ofNat_of_lt' ?_).symm⟩⟩
        exact Nat.lt_succ_of_le hb
      · exact ⟨_, .invalid (.hint hk hv)⟩
    | browser =>
      by_cases hv : IsBrowser pair.value
      · obtain ⟨browser, hb⟩ := hv
        exact ⟨.ok (.browser browser), .setting hk hb⟩
      · exact ⟨_, .unknown (.browser hk hv)⟩
    | fastOpen =>
      by_cases hv : IsSwitch pair.value
      · rcases hv with ht | hf
        · exact ⟨.ok (.fastOpen true), .setting hk ht⟩
        · exact ⟨.ok (.fastOpen false), .setting hk hf⟩
      · exact ⟨_, .invalid (.switch hk hv)⟩
  · exact ⟨_, .unknown (.unknownKey (not_exists.mp hk))⟩

lemma setting_eq_iff {result : Except PairFault Setting} : pair.setting = result ↔ pair.Says result := by
  have hs : ∀ {result}, pair.Says result → pair.setting = result := by
    intro result h
    cases h with
    | setting hk ht => exact setting_of_isText hk ht
    | invalid hb => exact setting_of_isBad hb
    | unknown hf => exact setting_of_fails hf
  refine ⟨?_, hs⟩
  rintro rfl
  obtain ⟨result, h⟩ := pair.exists_says
  rwa [hs h]

lemma setting_eq_ok_iff :
    pair.setting = .ok setting ↔ pair.IsOf setting.field ∧ setting.IsText pair.value := by
  constructor
  · intro h
    cases setting_eq_iff.mp h with
    | setting hk ht => exact ⟨hk, ht⟩
  · rintro ⟨hk, ht⟩
    exact setting_of_isText hk ht

lemma isInvalid_iff : pair.isInvalid ↔ pair.IsBad := by
  unfold isInvalid
  constructor
  · intro h
    split at h
    · next hs =>
      cases setting_eq_iff.mp hs with
      | invalid hb => exact hb
    · cases h
  · intro hb
    rw [setting_of_isBad hb]

end Pair

end Camouflage.Options

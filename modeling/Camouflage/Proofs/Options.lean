import Camouflage.Options
import Mathlib.Data.List.Induction
import Mathlib.Data.List.Nodup
import Mathlib.Data.List.Perm.Basic

namespace Camouflage.Options

variable {settings : List Setting} {setting : Setting} {field : Field}
  {options options' : Options}

def get (options : Options) : Field → Setting
  | .serverName => .serverName options.serverName
  | .key => .key options.key
  | .ticketTimeHint => .ticketTimeHint options.ticketTimeHint
  | .browser => .browser options.browser
  | .fastOpen => .fastOpen options.fastOpen

def allSettings (options : Options) : List Setting := Field.all.map options.get

structure Holds (settings : List Setting) (options : Options) : Prop where
  given : ∀ setting ∈ settings, options.get setting.field = setting
  absent : ∀ field, (∀ setting ∈ settings, setting.field ≠ field) →
    options.get field = ({} : Options).get field

lemma Field.ofName?_name (field : Field) : ofName? field.name.toList = some field := by
  cases field <;> decide

lemma Field.name_injective : Function.Injective fun field : Field => field.name.toList := by
  intro field other h
  have hf := congrArg ofName? h
  simp only [ofName?_name] at hf
  exact Option.some.inj hf

lemma Field.mem_all (field : Field) : field ∈ all := by
  cases field <;> decide

lemma field_get (options : Options) (field : Field) : (options.get field).field = field := by
  cases field <;> rfl

lemma eq_of_get (h : ∀ field, options.get field = options'.get field) : options = options' := by
  obtain ⟨serverName, key, ticketTimeHint, browser, fastOpen⟩ := options
  cases h .serverName
  cases h .key
  cases h .ticketTimeHint
  cases h .browser
  cases h .fastOpen
  rfl

lemma get_set : (options.set setting).get field =
    if setting.field = field then setting else options.get field := by
  cases setting <;> cases field <;> rfl

lemma get_ofSettings (settings : List Setting) (field : Field) :
    (ofSettings settings).get field =
      (settings.reverse.find? fun setting => setting.field = field).getD (({} : Options).get field) := by
  induction settings using List.reverseRecOn with
  | nil => rfl
  | append_singleton settings setting ih =>
    have hset : ofSettings (settings ++ [setting]) = (ofSettings settings).set setting := by
      rw [ofSettings, List.foldl_append]
      rfl
    rw [hset, get_set, ih, List.reverse_append, List.reverse_singleton, List.singleton_append,
      List.find?_cons]
    by_cases hf : setting.field = field <;> simp [hf]

lemma holds_ofSettings (h : (settings.map Setting.field).Nodup) : Holds settings (ofSettings settings) where
  given setting hm := by
    rw [get_ofSettings]
    cases hf : settings.reverse.find? fun other => other.field = setting.field with
    | none =>
      have hn := List.find?_eq_none.mp hf setting (List.mem_reverse.mpr hm)
      exact absurd rfl (of_decide_eq_false (Bool.of_not_eq_true hn))
    | some other =>
      have hm' := List.mem_reverse.mp (List.mem_of_find?_eq_some hf)
      have he : decide (other.field = setting.field) = true := by
        have hs := List.find?_some hf
        exact hs
      exact List.inj_on_of_nodup_map h hm' hm (of_decide_eq_true he)
  absent field hn := by
    rw [get_ofSettings, List.find?_eq_none.mpr]
    · rfl
    · intro setting hm
      simp [hn setting (List.mem_reverse.mp hm)]

lemma ofSettings_allSettings (options : Options) : ofSettings options.allSettings = options := rfl

lemma nodup_allSettings (options : Options) : (options.allSettings.map Setting.field).Nodup := by
  have hf : options.allSettings.map Setting.field = Field.all := rfl
  rw [hf]
  decide

lemma length_le_of_nodup (h : (settings.map Setting.field).Nodup) :
    settings.length ≤ Field.all.length := by
  have hs := (List.subperm_of_subset h fun field _ => field.mem_all).length_le
  rwa [List.length_map] at hs

end Camouflage.Options

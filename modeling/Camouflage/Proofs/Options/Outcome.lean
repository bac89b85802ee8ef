import Camouflage.Options.Load
import Camouflage.Proofs.Options.Chosen
import Camouflage.Proofs.Options.Value
import Camouflage.Proofs.Utf8

/-! What options in one line come to: each value is checked where it stands, the last pair of each key counts,
and what counts is looked at in the order of the keys. -/

namespace Camouflage.Options

variable {pair : Pair} {pairs pairs' : List Pair} {settings : List Setting} {options options' : Options}
  {text : String} {error : ConfigError}

def AllSay (pairs : List Pair) (settings : List Setting) : Prop :=
  List.Forall₂ (fun pair setting => pair.setting = .ok setting) pairs settings

namespace AllSay

lemma settingsOf (h : AllSay pairs settings) : settingsOf pairs = .ok settings := by
  induction h with
  | nil => rfl
  | cons hs _ ih =>
    simp only [Options.settingsOf, hs, ih]
    rfl

lemma map_setting (h : AllSay pairs settings) : pairs.map Pair.setting = settings.map Except.ok := by
  rwa [← List.forall₂_eq_eq_eq, List.forall₂_map_left_iff, List.forall₂_map_right_iff]

lemma exists_setting (h : AllSay pairs settings) (hm : pair ∈ pairs) :
    ∃ setting ∈ settings, pair.setting = .ok setting := by
  have hs := List.mem_map_of_mem (f := Pair.setting) hm
  rw [h.map_setting] at hs
  obtain ⟨setting, hm, he⟩ := List.mem_map.mp hs
  exact ⟨setting, hm, he.symm⟩

lemma exists_pair (h : AllSay pairs settings) {setting : Setting} (hm : setting ∈ settings) :
    ∃ pair ∈ pairs, pair.setting = .ok setting := by
  have hs : Except.ok setting ∈ settings.map (Except.ok : Setting → Except PairFault Setting) :=
    List.mem_map_of_mem hm
  rw [← h.map_setting] at hs
  exact List.mem_map.mp hs

lemma map_key (h : AllSay pairs settings) :
    pairs.map Pair.key = settings.map fun setting => setting.field.name.toList := by
  rw [← List.forall₂_eq_eq_eq, List.forall₂_map_left_iff, List.forall₂_map_right_iff]
  exact h.imp fun pair setting hs => (Pair.setting_eq_ok_iff.mp hs).1

end AllSay

lemma settingsOf_of_failed {before after : List Pair} {fault : Json.Fault}
    (hb : ∀ other ∈ before, ∃ setting, other.setting = .ok setting)
    (hp : pair.setting = .error (.unknown fault)) :
    settingsOf (before ++ pair :: after) = .error (.unknown fault) := by
  induction before with
  | nil => simp only [List.nil_append, settingsOf, hp]
  | cons first before ih =>
    obtain ⟨setting, hs⟩ := hb first List.mem_cons_self
    have hi := ih fun other hm => hb other (List.mem_cons_of_mem _ hm)
    simp only [List.cons_append, settingsOf, hs, hi]
    rfl

lemma allSay_or_failed (pairs : List Pair) : (∃ settings, AllSay pairs settings) ∨
    ∃ before pair after fault, pairs = before ++ pair :: after ∧
      (∀ other ∈ before, ∃ setting, other.setting = .ok setting) ∧ pair.setting = .error fault := by
  induction pairs with
  | nil => exact Or.inl ⟨[], .nil⟩
  | cons pair pairs ih =>
    cases hs : pair.setting with
    | error fault => exact Or.inr ⟨[], pair, pairs, fault, rfl, List.forall_mem_nil _, hs⟩
    | ok setting =>
      rcases ih with ⟨settings, h⟩ | ⟨before, failed, after, fault, rfl, hb, hf⟩
      · exact Or.inl ⟨setting :: settings, .cons hs h⟩
      · exact Or.inr ⟨pair :: before, failed, after, fault, rfl,
          List.forall_mem_cons.mpr ⟨⟨setting, hs⟩, hb⟩, hf⟩

structure IsAcceptable (pairs : List Pair) : Prop where
  hints : ∀ pair ∈ pairs, pair.IsOf .ticketTimeHint → IsHint pair.value
  switches : ∀ pair ∈ pairs, pair.IsOf .fastOpen → IsSwitch pair.value
  known : ∀ pair ∈ pairs, ∃ field, pair.IsOf field
  browser : ∀ pair : Pair, pair.IsLast pairs → pair.IsOf .browser → IsBrowser pair.value

structure HoldsLast (pairs : List Pair) (options : Options) : Prop where
  given : ∀ (pair : Pair) (field : Field), pair.IsLast pairs → pair.IsOf field →
    (options.get field).IsText pair.value
  absent : ∀ field, (∀ pair ∈ pairs, ¬ pair.IsOf field) → options.get field = ({} : Options).get field

/-- The leftmost value that is bad wherever it stands, and without one what is wrong with the pair that counts
for the smallest key as keys are ordered by their bytes. -/
inductive Reports (pairs : List Pair) : ConfigError → Prop
  | invalidValue {before after : List Pair} {pair : Pair} : pairs = before ++ pair :: after →
      (∀ other ∈ before, ¬ other.IsBad) → pair.IsBad →
      Reports pairs (.invalidValue (.ofList pair.key) (.ofList pair.value))
  | json {pair : Pair} {fault : Json.Fault} : (∀ other ∈ pairs, ¬ other.IsBad) → pair.IsLast pairs →
      pair.Fails fault →
      (∀ (other : Pair) (fault' : Json.Fault), other.IsLast pairs → other.Fails fault' →
        ¬ Bytes.ofChars other.key < Bytes.ofChars pair.key) →
      Reports pairs (.json fault none)

/-- The same pairs for each key, in the same order, but in any order with the pairs of other keys. -/
def Reordered (pairs pairs' : List Pair) : Prop :=
  ∀ key, (pairs.filter fun pair => pair.key = key) = pairs'.filter fun pair => pair.key = key

namespace IsAcceptable

variable {fault : Json.Fault}

lemma not_isBad (h : IsAcceptable pairs) (hm : pair ∈ pairs) : ¬ pair.IsBad := by
  rintro (⟨hk, hn⟩ | ⟨hk, hn⟩)
  · exact hn (h.hints pair hm hk)
  · exact hn (h.switches pair hm hk)

lemma not_fails (h : IsAcceptable pairs) (hl : pair.IsLast pairs) : ¬ pair.Fails fault := by
  rintro (hn | ⟨hk, hn⟩)
  · obtain ⟨field, hk⟩ := h.known pair hl.mem
    exact hn field hk
  · exact hn (h.browser pair hl hk)

lemma exists_allSay (h : IsAcceptable pairs) : ∃ settings, AllSay (chosen pairs) settings := by
  rcases allSay_or_failed (chosen pairs) with hs | ⟨before, pair, after, fault, hsplit, -, hp⟩
  · exact hs
  · have hl := isLast_of_chosen hsplit
    cases Pair.setting_eq_iff.mp hp with
    | invalid hb => exact absurd hb (h.not_isBad hl.mem)
    | unknown hf => exact absurd hf (h.not_fails hl)

lemma of_setting (hb : ∀ pair ∈ pairs, ¬ pair.IsBad)
    (hs : ∀ pair : Pair, pair.IsLast pairs → ∃ setting, pair.setting = .ok setting) : IsAcceptable pairs where
  hints pair hm hk := by
    by_contra hv
    exact hb pair hm (.hint hk hv)
  switches pair hm hk := by
    by_contra hv
    exact hb pair hm (.switch hk hv)
  known pair hm := by
    obtain ⟨last, hl, he⟩ := Pair.exists_isLast hm
    obtain ⟨setting, hset⟩ := hs last hl
    exact ⟨setting.field, he.symm.trans (Pair.setting_eq_ok_iff.mp hset).1⟩
  browser pair hl hk := by
    by_contra hv
    obtain ⟨setting, hset⟩ := hs pair hl
    cases hset.symm.trans (Pair.setting_of_fails (.browser hk hv))

end IsAcceptable

lemma HoldsLast.unique (h : HoldsLast pairs options) (h' : HoldsLast pairs options') :
    options = options' := by
  apply eq_of_get
  intro field
  by_cases hf : ∃ pair ∈ pairs, pair.IsOf field
  · obtain ⟨pair, hm, hk⟩ := hf
    obtain ⟨last, hl, he⟩ := Pair.exists_isLast hm
    have hget : ∀ {options}, HoldsLast pairs options → last.setting = .ok (options.get field) := by
      intro options h
      have hk : last.IsOf field := he.trans hk
      apply Pair.setting_of_isText
      · rwa [field_get]
      · exact h.given last field hl hk
    exact Except.ok.inj ((hget h).symm.trans (hget h'))
  · have hn : ∀ pair ∈ pairs, ¬ pair.IsOf field := fun pair hm hk => hf ⟨pair, hm, hk⟩
    rw [h.absent field hn, h'.absent field hn]

lemma holdsLast_ofSettings (h : AllSay (chosen pairs) settings) : HoldsLast pairs (ofSettings settings) := by
  have hfields : (settings.map Setting.field).Nodup := by
    have hn := nodup_keys_chosen pairs
    rw [h.map_key] at hn
    apply List.Nodup.of_map fun field : Field => field.name.toList
    rw [List.map_map]
    exact hn
  have hholds := holds_ofSettings hfields
  refine ⟨?_, ?_⟩
  · intro pair field hl hk
    obtain ⟨setting, hm, hs⟩ := h.exists_setting (mem_chosen_iff.mpr hl)
    obtain ⟨hk', ht⟩ := Pair.setting_eq_ok_iff.mp hs
    rw [hk.unique hk', hholds.given setting hm]
    exact ht
  · intro field hn
    apply hholds.absent
    intro setting hm hf
    obtain ⟨pair, hp, hs⟩ := h.exists_pair hm
    have hk := (Pair.setting_eq_ok_iff.mp hs).1
    rw [hf] at hk
    exact hn pair (mem_chosen_iff.mp hp).mem hk

namespace Reordered

lemma mem_iff (h : Reordered pairs pairs') : pair ∈ pairs ↔ pair ∈ pairs' := by
  have hf : ∀ pairs : List Pair, pair ∈ pairs ↔ pair ∈ pairs.filter fun other => other.key = pair.key := by
    intro pairs
    rw [List.mem_filter]
    exact (and_iff_left (decide_eq_true rfl)).symm
  rw [hf pairs, h pair.key, ← hf pairs']

lemma isLast_iff (h : Reordered pairs pairs') : pair.IsLast pairs ↔ pair.IsLast pairs' := by
  rw [Pair.IsLast, h pair.key, ← Pair.IsLast]

lemma isAcceptable (h : Reordered pairs pairs') (ha : IsAcceptable pairs) : IsAcceptable pairs' where
  hints pair hm := ha.hints pair (h.mem_iff.mpr hm)
  switches pair hm := ha.switches pair (h.mem_iff.mpr hm)
  known pair hm := ha.known pair (h.mem_iff.mpr hm)
  browser pair hl := ha.browser pair (h.isLast_iff.mpr hl)

lemma holdsLast (h : Reordered pairs pairs') (hh : HoldsLast pairs options) : HoldsLast pairs' options where
  given pair field hl := hh.given pair field (h.isLast_iff.mpr hl)
  absent field hn := hh.absent field fun pair hm => hn pair (h.mem_iff.mp hm)

end Reordered

lemma find?_isInvalid_eq_none_iff : pairs.find? Pair.isInvalid = none ↔ ∀ pair ∈ pairs, ¬ pair.IsBad := by
  rw [List.find?_eq_none]
  exact forall₂_congr fun pair _ => Pair.isInvalid_iff.not

lemma find?_isInvalid_eq_some_iff : pairs.find? Pair.isInvalid = some pair ↔
    pair.IsBad ∧ ∃ before after, pairs = before ++ pair :: after ∧ ∀ other ∈ before, ¬ other.IsBad := by
  simp only [List.find?_eq_some_iff_append, Bool.not_eq_true', Pair.isInvalid_iff, ← Bool.not_eq_true]

lemma isAcceptable_or_reports (pairs : List Pair) : IsAcceptable pairs ∨ ∃ error, Reports pairs error := by
  cases hf : pairs.find? Pair.isInvalid with
  | some pair =>
    obtain ⟨hbad, before, after, hp, hb⟩ := find?_isInvalid_eq_some_iff.mp hf
    exact Or.inr ⟨_, .invalidValue hp hb hbad⟩
  | none =>
    have hb := find?_isInvalid_eq_none_iff.mp hf
    rcases allSay_or_failed (chosen pairs) with ⟨settings, hs⟩ | ⟨before, pair, after, fault, hsplit, hok, hp⟩
    · refine Or.inl (.of_setting hb ?_)
      intro pair hl
      obtain ⟨setting, -, hset⟩ := hs.exists_setting (mem_chosen_iff.mpr hl)
      exact ⟨setting, hset⟩
    · have hl := isLast_of_chosen hsplit
      cases Pair.setting_eq_iff.mp hp with
      | invalid hbad => exact absurd hbad (hb pair hl.mem)
      | @unknown fault hfail =>
        refine Or.inr ⟨.json fault none, .json hb hl hfail ?_⟩
        intro other fault' hl' hfail' hlt
        rw [← mem_chosen_iff, hsplit, List.mem_append, List.mem_cons] at hl'
        -- pairs in front of it give settings, and pairs behind it have greater keys
        rcases hl' with hm | rfl | hm
        · obtain ⟨setting, hset⟩ := hok other hm
          cases hset.symm.trans (Pair.setting_of_fails hfail')
        · exact List.lt_irrefl _ hlt
        · have hgreater := (key_lt_of_chosen hsplit).2 other hm
          exact List.lt_asymm (Bytes.ofChars_lt hgreater) hlt

lemma ofInline_of_split {text : List Char} (h : split text = .ok pairs) : ofInline text =
    match pairs.find? Pair.isInvalid with
    | some pair => .error (.invalidValue pair)
    | none => (settingsOf (chosen pairs)).map ofSettings := by
  simp only [ofInline, h]
  rfl

lemma ofInline_of_isAcceptable {text : List Char} (h : split text = .ok pairs) (ha : IsAcceptable pairs) :
    ∃ options, ofInline text = .ok options ∧ HoldsLast pairs options := by
  have hf := find?_isInvalid_eq_none_iff.mpr fun pair hm => ha.not_isBad hm
  obtain ⟨settings, hs⟩ := ha.exists_allSay
  refine ⟨ofSettings settings, ?_, holdsLast_ofSettings hs⟩
  simp only [ofInline_of_split h, hf, hs.settingsOf]
  rfl

lemma loadInline_of_isAcceptable (h : split text.toList = .ok pairs) (ha : IsAcceptable pairs) :
    ∃ options, loadInline text = .ok options ∧ HoldsLast pairs options := by
  obtain ⟨options, ho, hh⟩ := ofInline_of_isAcceptable h ha
  refine ⟨options, ?_, hh⟩
  rw [loadInline, ho]

lemma loadInline_of_reports (h : split text.toList = .ok pairs) (hr : Reports pairs error) :
    loadInline text = .error error := by
  cases hr with
  | @invalidValue before after pair hp hb hbad =>
    have hf := find?_isInvalid_eq_some_iff.mpr ⟨hbad, before, after, hp, hb⟩
    simp only [loadInline, ofInline_of_split h, hf]
  | @json pair fault hb hl hfail hleast =>
    have hf := find?_isInvalid_eq_none_iff.mpr hb
    obtain ⟨before, after, hsplit⟩ := List.append_of_mem (mem_chosen_iff.mpr hl)
    -- a pair in front with a fault would have a smaller key
    have hbefore : ∀ other ∈ before, ∃ setting, other.setting = .ok setting := by
      intro other hm
      have hl' : other.IsLast pairs := by
        rw [← mem_chosen_iff, hsplit]
        exact List.mem_append_left _ hm
      obtain ⟨result, hs⟩ := other.exists_says
      cases hs with
      | setting hk ht => exact ⟨_, Pair.setting_of_isText hk ht⟩
      | invalid hbad => exact absurd hbad (hb other hl'.mem)
      | unknown hfail' =>
        have hlt := (key_lt_of_chosen hsplit).1 other hm
        exact absurd (Bytes.ofChars_lt hlt) (hleast other _ hl' hfail')
    have hs : settingsOf (chosen pairs) = .error (.unknown fault) := by
      rw [hsplit]
      exact settingsOf_of_failed hbefore (Pair.setting_of_fails hfail)
    simp only [loadInline, ofInline_of_split h, hf, hs]
    rfl

lemma loadInline_eq_ok_iff (h : split text.toList = .ok pairs) :
    loadInline text = .ok options ↔ IsAcceptable pairs ∧ HoldsLast pairs options := by
  constructor
  · intro ho
    rcases isAcceptable_or_reports pairs with ha | ⟨error, hr⟩
    · obtain ⟨options', ho', hh⟩ := loadInline_of_isAcceptable h ha
      cases ho.symm.trans ho'
      exact ⟨ha, hh⟩
    · cases ho.symm.trans (loadInline_of_reports h hr)
  · rintro ⟨ha, hh⟩
    obtain ⟨options', ho', hh'⟩ := loadInline_of_isAcceptable h ha
    rw [ho', hh.unique hh']

lemma loadInline_eq_error_iff (h : split text.toList = .ok pairs) :
    loadInline text = .error error ↔ Reports pairs error := by
  constructor
  · intro he
    rcases isAcceptable_or_reports pairs with ha | ⟨error', hr⟩
    · obtain ⟨options, ho, -⟩ := loadInline_of_isAcceptable h ha
      cases he.symm.trans ho
    · cases he.symm.trans (loadInline_of_reports h hr)
      exact hr
  · exact loadInline_of_reports h

/-- A line of pairs gives options just when all numbers and truth values in it can be read, all its keys are
known and the browser that counts is. The options have the last value for each key and the defaults for other
keys, so only the order of the pairs of one key matters. Any other line gives the fault that comes first:
among the numbers and truth values as they stand, and then among the keys as they are sorted. -/
theorem last_value_counts (h : split text.toList = .ok pairs) :
    ((∃ options, loadInline text = .ok options) ↔ IsAcceptable pairs) ∧
    (∀ options, loadInline text = .ok options → HoldsLast pairs options) ∧
    (∀ (other : String) (pairs' : List Pair), split other.toList = .ok pairs' → Reordered pairs pairs' →
      ∀ options, loadInline text = .ok options → loadInline other = .ok options) ∧
    ∀ error, loadInline text = .error error ↔ Reports pairs error := by
  refine ⟨⟨?_, ?_⟩, ?_, ?_, ?_⟩
  · rintro ⟨options, ho⟩
    exact ((loadInline_eq_ok_iff h).mp ho).1
  · intro ha
    obtain ⟨options, ho, -⟩ := loadInline_of_isAcceptable h ha
    exact ⟨options, ho⟩
  · intro options ho
    exact ((loadInline_eq_ok_iff h).mp ho).2
  · intro other pairs' h' hr options ho
    obtain ⟨ha, hh⟩ := (loadInline_eq_ok_iff h).mp ho
    exact (loadInline_eq_ok_iff h').mpr ⟨hr.isAcceptable ha, hr.holdsLast hh⟩
  · intro error
    exact loadInline_eq_error_iff h

theorem replaced_value_is_reported : loadInline "Browser=opera;FastOpen=maybe;Zoom=1;FastOpen=true" =
    .error (.invalidValue "FastOpen" "maybe") := by
  have h : split "Browser=opera;FastOpen=maybe;Zoom=1;FastOpen=true".toList =
      .ok ([⟨"Browser".toList, "opera".toList⟩] ++ ⟨"FastOpen".toList, "maybe".toList⟩ ::
        [⟨"Zoom".toList, "1".toList⟩, ⟨"FastOpen".toList, "true".toList⟩]) := by decide +kernel
  refine ((last_value_counts h).2.2.2 _).mpr (.invalidValue rfl ?_ ?_)
  · simp only [List.forall_mem_singleton]
    rintro (⟨hk, -⟩ | ⟨hk, -⟩)
    · exact absurd hk (by rw [Pair.IsOf]; decide)
    · exact absurd hk (by rw [Pair.IsOf]; decide)
  · refine .switch rfl ?_
    rw [IsSwitch]
    decide

end Camouflage.Options

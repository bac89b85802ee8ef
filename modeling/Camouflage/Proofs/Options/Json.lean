import Camouflage.Options.Json
import Camouflage.Options.Written
import Camouflage.Proofs.Json
import Camouflage.Proofs.Options
import Camouflage.Proofs.Text

namespace Camouflage.Options

open Json (IsBlanks IsSpelled Delimits skipBlank_append skipBlank_cons)

section

variable (spelling : Spelling) (setting : Setting)

def Setting.IsValue (text : List Char) : Prop :=
  match setting with
  | .serverName _ | .key _ | .browser _ => ∃ written,
    IsSpelled (setting.valueText spelling) written ∧ text = '"' :: (written ++ ['"'])
  | .ticketTimeHint _ | .fastOpen _ => text = setting.valueText spelling

inductive Setting.IsMember : List Char → Prop
  | intro {front name middle gap value back : List Char} : IsBlanks front →
      IsSpelled setting.field.name.toList name → IsBlanks middle → IsBlanks gap →
      setting.IsValue spelling value → IsBlanks back →
      IsMember (front ++ '"' :: (name ++ '"' :: (middle ++ ':' :: (gap ++ (value ++ back)))))

inductive IsObject (settings : List Setting) : List Char → Prop
  | intro {front inside back : List Char} {members : List (List Char)} : IsBlanks front →
      IsBlanks inside → List.Forall₂ (Setting.IsMember spelling) settings members → IsBlanks back →
      IsObject settings (front ++ '{' :: (inside ++ ([','].intercalate members ++ '}' :: back)))

end

variable {spelling : Spelling} {settings done : List Setting} {setting : Setting}
  {blanks gap value name text rest : List Char} {members : List (List Char)} {count : Nat}

lemma readSetting_append (h : setting.IsValue spelling value) (hb : IsBlanks blanks) (hr : Delimits rest)
    (leave : List Char → List Char) :
    readSetting leave (blanks ++ (value ++ rest)) setting.field = .ok (setting, rest) := by
  have hquoted : ∀ {text written : List Char}, IsSpelled text written →
      value = '"' :: (written ++ ['"']) →
        Json.readText (blanks ++ (value ++ rest)) = .ok (text, rest) := by
    rintro text written hw rfl
    rw [List.cons_append, List.append_assoc]
    exact Json.readText_append hb hw rest
  cases setting with
  | serverName _ | key _ =>
    obtain ⟨written, hw, hv⟩ := h
    simp only [readSetting, Setting.field, hquoted hw hv, Setting.valueText]
    rw [Except.map, String.ofList_toList]
  | browser choice =>
    obtain ⟨written, hw, hv⟩ := h
    simp only [readSetting, Setting.field, hquoted hw hv, Setting.valueText, String.ofList_toList,
      spelling.ofName?_name]
  | ticketTimeHint seconds =>
    cases h
    simp only [readSetting, Setting.field, Setting.valueText, Json.readWhole_append hb hr]
    rfl
  | fastOpen value =>
    cases h
    have hread := Json.readBoolean_append hb value rest
    cases value with
    | true =>
      change (Json.readBoolean (blanks ++ ((toString true).toList ++ rest))).map _ = _
      rw [hread]
      rfl
    | false =>
      change (Json.readBoolean (blanks ++ ((toString false).toList ++ rest))).map _ = _
      rw [hread]
      rfl

lemma readMember_append (hset : isSet done setting.field = false)
    (hname : IsSpelled setting.field.name.toList name) (hb : IsBlanks blanks) (hg : IsBlanks gap)
    (hv : setting.IsValue spelling value) (hr : Delimits rest) :
    readMember done (name ++ '"' :: (blanks ++ ':' :: (gap ++ (value ++ rest)))) =
      .ok (setting, rest) := by
  simp only [readMember, Json.readString_append hname, Field.ofName?_name, hset, skipBlank_append hb,
    skipBlank_cons (c := ':') rfl]
  exact readSetting_append hv hg hr _

lemma nextMember_first (hb : IsBlanks blanks) (text : List Char) :
    nextMember true (blanks ++ '"' :: text) = .ok (true, text) := by
  simp only [nextMember, skipBlank_append hb, skipBlank_cons (c := '"') rfl]

lemma nextMember_later (hb : IsBlanks blanks) (hg : IsBlanks gap) (text : List Char) :
    nextMember false (blanks ++ ',' :: (gap ++ '"' :: text)) = .ok (true, text) := by
  simp only [nextMember, skipBlank_append hb, skipBlank_append hg, skipBlank_cons (c := ',') rfl,
    skipBlank_cons (c := '"') rfl]

lemma nextMember_end (isFirst : Bool) (hb : IsBlanks blanks) (text : List Char) :
    nextMember isFirst (blanks ++ '}' :: text) = .ok (false, text) := by
  simp only [nextMember, skipBlank_append hb, skipBlank_cons (c := '}') rfl]

lemma delimits_append (hb : IsBlanks blanks) (hr : Delimits rest) : Delimits (blanks ++ rest) := by
  cases blanks with
  | nil => exact hr
  | cons c blanks =>
    intro d hd
    obtain rfl := Option.some.inj hd
    have hc := hb c List.mem_cons_self
    simp only [Json.isBlank, Bool.or_eq_true, decide_eq_true_eq] at hc
    rcases hc with ((rfl | rfl) | rfl) | rfl <;> decide

lemma delimits_behind (members : List (List Char)) (rest : List Char) :
    Delimits (members.flatMap (',' :: ·) ++ '}' :: rest) := by
  cases members with
  | nil =>
    intro c hc
    obtain rfl := Option.some.inj hc
    decide
  | cons member members =>
    intro c hc
    obtain rfl := Option.some.inj hc
    decide

lemma Setting.IsMember.read {member : List Char} (h : setting.IsMember spelling member)
    (hset : isSet done setting.field = false) (hr : Delimits rest) : ∃ front inside back,
      IsBlanks front ∧ IsBlanks back ∧ member = front ++ '"' :: inside ∧
        readMember done (inside ++ rest) = .ok (setting, back ++ rest) := by
  obtain ⟨hfront, hname, hmiddle, hgap, hvalue, hback⟩ := h
  refine ⟨_, _, _, hfront, hback, rfl, ?_⟩
  have hread := readMember_append hset hname hmiddle hgap hvalue (delimits_append hback hr)
  simp only [List.append_assoc, List.cons_append]
  exact hread

lemma isSet_eq_false (h : ((done ++ setting :: settings).map Setting.field).Nodup) :
    isSet done setting.field = false := by
  apply Bool.of_not_eq_true
  intro hs
  obtain ⟨other, hm, he⟩ := List.any_eq_true.mp hs
  rw [List.map_append, List.nodup_append] at h
  exact h.2.2 _ (List.mem_map_of_mem hm) _ (List.mem_map_of_mem List.mem_cons_self) (beq_iff_eq.mp he)

lemma readMembers_end (h : nextMember done.isEmpty text = .ok (false, rest)) :
    readMembers count done text = .ok (done, rest) := by
  rw [readMembers.eq_def]
  simp only [h]

lemma readMembers_member {text' : List Char} (h : nextMember done.isEmpty text = .ok (true, text'))
    (hm : readMember done text' = .ok (setting, rest)) :
    readMembers (count + 1) done text = readMembers count (done ++ [setting]) rest := by
  rw [readMembers.eq_def]
  simp only [h, hm]

lemma readMembers_behind {first : Setting}
    (h : List.Forall₂ (Setting.IsMember spelling) settings members)
    (hn : ((first :: done ++ settings).map Setting.field).Nodup) (hc : settings.length ≤ count)
    (hb : IsBlanks blanks) (rest : List Char) :
    readMembers count (first :: done) (blanks ++ (members.flatMap (',' :: ·) ++ '}' :: rest)) =
      .ok (first :: done ++ settings, rest) := by
  induction h generalizing done count blanks with
  | nil =>
    rw [List.flatMap_nil, List.nil_append, List.append_nil]
    exact readMembers_end (nextMember_end false hb rest)
  | @cons setting member settings members hm _ ih =>
    obtain ⟨front, inside, back, hfront, hback, rfl, hread⟩ :=
      hm.read (isSet_eq_false hn) (delimits_behind members rest)
    cases count with
    | zero => cases hc
    | succ count =>
      have hn' : ((first :: (done ++ [setting]) ++ settings).map Setting.field).Nodup := by
        rwa [List.cons_append, List.append_assoc]
      have hi := ih hn' (Nat.le_of_succ_le_succ hc) hback
      have hnext : ∀ text, nextMember (first :: done).isEmpty _ = .ok (true, text) :=
        nextMember_later hb hfront
      simp only [List.flatMap_cons, List.append_assoc, List.cons_append] at hi ⊢
      rw [readMembers_member (hnext _) hread]
      exact hi

lemma readMembers_all (h : List.Forall₂ (Setting.IsMember spelling) settings members)
    (hn : (settings.map Setting.field).Nodup) (hc : settings.length ≤ count)
    (hb : IsBlanks blanks) (rest : List Char) :
    readMembers count [] (blanks ++ ([','].intercalate members ++ '}' :: rest)) =
      .ok (settings, rest) := by
  cases h with
  | nil => exact readMembers_end (nextMember_end true hb rest)
  | @cons setting member settings members hm hms =>
    have hset : isSet [] setting.field = false := rfl
    obtain ⟨front, inside, back, hfront, hback, rfl, hread⟩ :=
      hm.read hset (delimits_behind members rest)
    cases count with
    | zero => cases hc
    | succ count =>
      have hn' : ((setting :: [] ++ settings).map Setting.field).Nodup := hn
      have hi := readMembers_behind hms hn' (Nat.le_of_succ_le_succ hc) hback rest
      -- the blanks in front of the first member are those of the object and its own
      have hblanks := List.forall_mem_append.mpr ⟨hb, hfront⟩
      have hnext : ∀ text, nextMember ([] : List Setting).isEmpty _ = .ok (true, text) :=
        nextMember_first hblanks
      rw [Text.intercalate_cons]
      simp only [List.append_assoc, List.cons_append]
      rw [← List.append_assoc, readMembers_member (hnext _) hread]
      exact hi

theorem ofJson_of_isObject (h : (settings.map Setting.field).Nodup)
    (ho : IsObject spelling settings text) : ofJson text = .ok (ofSettings settings) := by
  obtain ⟨hfront, hinside, hmembers, hback⟩ := ho
  have hread := readMembers_all hmembers h (length_le_of_nodup h) hinside
  simp only [ofJson, readSettings, skipBlank_append hfront, skipBlank_cons (c := '{') rfl]
  rw [hread]
  simp only [Json.skipBlank_eq_nil hback]

lemma isValue_valueJson (spelling : Spelling) (setting : Setting) :
    setting.IsValue spelling (setting.valueJson spelling) := by
  cases setting with
  | serverName _ | key _ | browser _ => exact ⟨_, Json.isSpelled_flatMap _, rfl⟩
  | ticketTimeHint _ | fastOpen _ => rfl

lemma isMember_member (spelling : Spelling) (setting : Setting) :
    setting.IsMember spelling (setting.member spelling) := by
  have hm : setting.member spelling =
      [] ++ '"' :: (setting.field.name.toList.flatMap Json.escape ++ '"' ::
        ([] ++ ':' :: ([] ++ (setting.valueJson spelling ++ [])))) := by
    simp [Setting.member, Json.writeString]
  rw [hm]
  exact .intro Json.isBlanks_nil (Json.isSpelled_flatMap _) Json.isBlanks_nil Json.isBlanks_nil
    (isValue_valueJson spelling setting) Json.isBlanks_nil

lemma isObject_writeJson (spelling : Spelling) (settings : List Setting) :
    IsObject spelling settings (writeJson spelling settings) := by
  have hw : writeJson spelling settings =
      [] ++ '{' :: ([] ++ ([','].intercalate (settings.map (Setting.member spelling)) ++ '}' :: [])) := by
    simp [writeJson]
  rw [hw]
  refine .intro Json.isBlanks_nil Json.isBlanks_nil ?_ Json.isBlanks_nil
  rw [List.forall₂_map_right_iff]
  exact List.forall₂_same.mpr fun setting _ => isMember_member spelling setting

end Camouflage.Options

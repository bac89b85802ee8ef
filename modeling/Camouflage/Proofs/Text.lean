import Camouflage.Browser
import Camouflage.Bytes
import Camouflage.Text.Blank
import Mathlib.Data.List.TakeWhile
import Mathlib.Tactic.Lemma

namespace Camouflage

namespace Text

variable {text : List Char}

lemma dropWhile_isBlank (h : ∀ c ∈ text, isBlank c = false) : text.dropWhile isBlank = text := by
  cases text with
  | nil => rfl
  | cons c text =>
    rw [List.dropWhile_cons, h c List.mem_cons_self]
    rfl

lemma trim_of_forall (h : ∀ c ∈ text, isBlank c = false) : trim text = text := by
  rw [trim, dropWhile_isBlank h, dropWhile_isBlank, List.reverse_reverse]
  intro c hm
  exact h c (List.mem_reverse.mp hm)

def AllBlank (text : List Char) : Prop := ∀ c ∈ text, isBlank c

lemma trim_eq_nil_iff : trim text = [] ↔ AllBlank text := by
  rw [trim, List.reverse_eq_nil_iff, List.dropWhile_eq_nil_iff]
  constructor
  · intro h
    cases hd : text.dropWhile isBlank with
    | nil => exact List.dropWhile_eq_nil_iff.mp hd
    | cons c rest =>
      have hc := List.head?_dropWhile_not isBlank text
      rw [hd] at hc h
      have hb := h c (List.mem_reverse.mpr List.mem_cons_self)
      cases hb.symm.trans hc
  · intro h c hm
    exact h c ((List.dropWhile_sublist isBlank).mem (List.mem_reverse.mp hm))

lemma isBlank_of_isDigit {c : Char} (h : c.isDigit) : isBlank c = false := by
  simp only [Char.isDigit, Bool.and_eq_true, decide_eq_true_eq] at h
  apply Bool.of_not_eq_true
  intro hb
  simp only [isBlank, blanks, List.contains_iff_mem] at hb
  have hl : 48 ≤ c.toNat := h.1
  have hu : c.toNat ≤ 57 := h.2
  simp only [List.mem_cons, List.not_mem_nil, or_false] at hb
  omega

lemma intercalate_cons (separator : Char) (first : List Char) (parts : List (List Char)) :
    [separator].intercalate (first :: parts) = first ++ parts.flatMap (separator :: ·) := by
  induction parts generalizing first with
  | nil => simp [List.intercalate]
  | cons part parts ih =>
    have hs : [separator].intercalate (first :: part :: parts) =
        first ++ separator :: [separator].intercalate (part :: parts) := by
      simp [List.intercalate, List.intersperse]
    rw [hs, ih, List.flatMap_cons, List.cons_append]

lemma fromUTF8?_ofChars (text : List Char) :
    String.fromUTF8? ⟨(Bytes.ofChars text).toArray⟩ = some (String.ofList text) := by
  have hb : (⟨(Bytes.ofChars text).toArray⟩ : ByteArray) = text.utf8Encode :=
    ByteArray.ext List.data_toByteArray.symm
  have hv : text.utf8Encode.IsValidUTF8 := ⟨text, rfl⟩
  rw [hb, String.fromUTF8?, dif_pos hv]
  rfl

end Text

namespace Browser

variable {text : String} {browser : Browser}

lemma sameIgnoringCase_name : Text.sameIgnoringCase text.toList browser.name.toList ↔
    text.toList.map Char.toLower = browser.name.toList := by
  have hl : browser.name.toList.map Char.toLower = browser.name.toList := by
    cases browser <;> decide
  rw [Text.sameIgnoringCase, hl]
  exact beq_iff_eq

lemma ofName?_eq_some_iff :
    ofName? text = some browser ↔ text.toList.map Char.toLower = browser.name.toList := by
  constructor
  · intro h
    unfold ofName? at h
    have hs := List.find?_some h
    exact sameIgnoringCase_name.mp hs
  · intro h
    cases browser with
    | chrome => rw [ofName?, List.find?_cons, sameIgnoringCase_name.mpr h]
    | firefox =>
      have hc : Text.sameIgnoringCase text.toList Browser.chrome.name.toList = false := by
        apply Bool.of_not_eq_true
        intro hs
        exact absurd ((sameIgnoringCase_name.mp hs).symm.trans h) (by decide)
      rw [ofName?, List.find?_cons, hc, List.find?_cons, sameIgnoringCase_name.mpr h]

end Browser

end Camouflage

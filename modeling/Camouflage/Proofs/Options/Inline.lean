import Camouflage.Options.Written
import Camouflage.Proofs.Text

namespace Camouflage.Options

variable {tail : List Char} {pair : Pair} {pairs : List Pair}

lemma splitFrom_backslash (entry : Entry) (c : Char) (rest : List Char) :
    splitFrom entry ('\\' :: c :: rest) = splitFrom (entry.push c) rest := by
  rw [splitFrom.eq_def]
  exact if_pos rfl

lemma splitFrom_equals (key rest : List Char) :
    splitFrom ⟨key, none⟩ ('=' :: rest) = splitFrom ⟨key, some []⟩ rest := by
  rw [splitFrom.eq_def]
  simp

lemma splitFrom_semicolon {entry : Entry} (h : entry.finish = .ok (some pair)) (rest : List Char) :
    splitFrom entry (';' :: rest) = (splitFrom {} rest).map ([pair] ++ ·) := by
  rw [splitFrom.eq_def]
  simp [h]

lemma splitFrom_escape (entry : Entry) (c : Char) (rest : List Char) :
    splitFrom entry (escape c ++ rest) = splitFrom (entry.push c) rest := by
  unfold escape
  split
  · exact splitFrom_backslash entry c rest
  · next hc =>
    rw [not_or, not_or] at hc
    rw [List.singleton_append, splitFrom.eq_def]
    simp [hc]

lemma splitFrom_key (key text rest : List Char) :
    splitFrom ⟨key, none⟩ (text.flatMap escape ++ rest) =
      splitFrom ⟨text.reverse ++ key, none⟩ rest := by
  induction text generalizing key with
  | nil => rfl
  | cons c text ih =>
    rw [List.flatMap_cons, List.append_assoc, splitFrom_escape]
    rw [List.reverse_cons, List.append_assoc]
    exact ih (c :: key)

lemma splitFrom_value (key value text rest : List Char) :
    splitFrom ⟨key, some value⟩ (text.flatMap escape ++ rest) =
      splitFrom ⟨key, some (text.reverse ++ value)⟩ rest := by
  induction text generalizing value with
  | nil => rfl
  | cons c text ih =>
    rw [List.flatMap_cons, List.append_assoc, splitFrom_escape]
    rw [List.reverse_cons, List.append_assoc]
    exact ih (c :: value)

lemma splitFrom_write (pair : Pair) (rest : List Char) :
    splitFrom {} (pair.write ++ rest) =
      splitFrom ⟨pair.key.reverse, some pair.value.reverse⟩ rest := by
  rw [Pair.write, List.append_assoc, splitFrom_key, List.append_nil, List.cons_append,
    splitFrom_equals, splitFrom_value, List.append_nil]

def Pair.IsKeyed (pair : Pair) : Prop := pair.key ≠ [] ∧ Text.trim pair.key = pair.key

lemma Pair.IsKeyed.finish (h : pair.IsKeyed) :
    Entry.finish ⟨pair.key.reverse, some pair.value.reverse⟩ = .ok (some pair) := by
  simp only [Entry.finish, List.reverse_reverse, h.2]
  rw [if_neg h.1]

def IsTail (tail : List Char) : Prop := tail = [] ∨ tail = [';']

lemma splitFrom_pairs (hp : pair.IsKeyed) (h : ∀ pair ∈ pairs, pair.IsKeyed) (ht : IsTail tail) :
    splitFrom {} (pair.write ++ ((pairs.map Pair.write).flatMap (';' :: ·) ++ tail)) =
      .ok (pair :: pairs) := by
  induction pairs generalizing pair with
  | nil =>
    rw [splitFrom_write]
    rcases ht with rfl | rfl
    · rw [List.map_nil, List.flatMap_nil, List.nil_append, splitFrom, hp.finish]
      rfl
    · rw [List.map_nil, List.flatMap_nil, List.nil_append, splitFrom_semicolon hp.finish]
      rfl
  | cons next pairs ih =>
    have hi := ih (h next List.mem_cons_self) fun pair hm => h pair (List.mem_cons_of_mem _ hm)
    rw [splitFrom_write, List.map_cons, List.flatMap_cons, List.append_assoc, List.cons_append,
      splitFrom_semicolon hp.finish, hi]
    rfl

lemma split_writePairs (h : ∀ pair ∈ pairs, pair.IsKeyed) (ht : IsTail tail) :
    split (writePairs pairs ++ tail) = .ok pairs := by
  cases pairs with
  | nil => rcases ht with rfl | rfl <;> rfl
  | cons pair pairs =>
    rw [split, writePairs, List.map_cons, Text.intercalate_cons, List.append_assoc]
    exact splitFrom_pairs (h pair List.mem_cons_self)
      (fun pair hm => h pair (List.mem_cons_of_mem _ hm)) ht

lemma isKeyed_pair (spelling : Spelling) (setting : Setting) : (setting.pair spelling).IsKeyed := by
  change setting.field.name.toList ≠ [] ∧
    Text.trim setting.field.name.toList = setting.field.name.toList
  cases setting.field <;> decide

end Camouflage.Options

import Camouflage.Options.Inline
import Mathlib.Data.Char
import Mathlib.Data.List.Induction
import Mathlib.Data.List.Lex
import Mathlib.Tactic.Lemma

namespace Camouflage.Options

variable {pair other : Pair} {pairs sorted : List Pair}

namespace Pair

def IsLast (pair : Pair) (pairs : List Pair) : Prop :=
  (pairs.filter fun other => other.key = pair.key).getLast? = some pair

def IsSorted (pairs : List Pair) : Prop := pairs.Pairwise fun first second => first.key < second.key

lemma IsLast.mem (h : pair.IsLast pairs) : pair ∈ pairs :=
  (List.mem_filter.mp (List.mem_of_getLast? h)).1

lemma exists_isLast (h : pair ∈ pairs) : ∃ last : Pair, last.IsLast pairs ∧ last.key = pair.key := by
  have hm : pair ∈ pairs.filter fun other => other.key = pair.key :=
    List.mem_filter.mpr ⟨h, decide_eq_true rfl⟩
  have hlast := List.getLast?_eq_some_getLast (List.ne_nil_of_mem hm)
  have hk := of_decide_eq_true (List.mem_filter.mp (List.mem_of_getLast? hlast)).2
  refine ⟨_, ?_, hk⟩
  rw [IsLast, hk]
  exact hlast

lemma isLast_append_singleton :
    other.IsLast (pairs ++ [pair]) ↔ other = pair ∨ other.IsLast pairs ∧ other.key ≠ pair.key := by
  by_cases hk : pair.key = other.key
  · have hf : [pair].filter (fun p => p.key = other.key) = [pair] :=
      List.filter_cons_of_pos (decide_eq_true hk)
    rw [IsLast, List.filter_append, hf, List.getLast?_concat, Option.some_inj]
    constructor
    · rintro rfl
      exact Or.inl rfl
    · rintro (rfl | ⟨-, hne⟩)
      · rfl
      · exact absurd hk.symm hne
  · have hf : [pair].filter (fun p => p.key = other.key) = [] :=
      List.filter_cons_of_neg (mt of_decide_eq_true hk)
    rw [IsLast, List.filter_append, hf, List.append_nil]
    constructor
    · intro hl
      exact Or.inr ⟨hl, Ne.symm hk⟩
    · rintro (rfl | ⟨hl, -⟩)
      · exact absurd rfl hk
      · exact hl

lemma mem_insert_iff (h : IsSorted sorted) :
    other ∈ pair.insert sorted ↔ other = pair ∨ other ∈ sorted ∧ other.key ≠ pair.key := by
  induction sorted with
  | nil => simp [insert]
  | cons first rest ih =>
    obtain ⟨hfirst, hrest⟩ := List.pairwise_cons.mp h
    rw [insert]
    split
    · next he =>
      rw [List.mem_cons]
      refine or_congr_right ⟨?_, ?_⟩
      · intro hm
        refine ⟨List.mem_cons_of_mem _ hm, ?_⟩
        rw [he]
        exact (hfirst other hm).ne'
      · rintro ⟨hm, hne⟩
        rcases List.mem_cons.mp hm with rfl | hm
        · exact absurd he.symm hne
        · exact hm
    · next hne =>
      split
      · next hlt =>
        have hgreater : other ∈ first :: rest → other.key ≠ pair.key := by
          intro hm
          rcases List.mem_cons.mp hm with rfl | hm
          · exact hlt.ne'
          · exact (hlt.trans (hfirst other hm)).ne'
        rw [List.mem_cons]
        exact or_congr_right (and_iff_left_of_imp hgreater).symm
      · have hother : other = first → other.key ≠ pair.key := by
          rintro rfl
          exact Ne.symm hne
        rw [List.mem_cons, ih hrest, List.mem_cons]
        tauto

lemma IsSorted.insert (h : IsSorted sorted) (pair : Pair) : IsSorted (pair.insert sorted) := by
  induction sorted with
  | nil => exact List.pairwise_singleton _ _
  | cons first rest ih =>
    obtain ⟨hfirst, hrest⟩ := List.pairwise_cons.mp h
    rw [Pair.insert]
    split
    · next he =>
      refine List.pairwise_cons.mpr ⟨?_, hrest⟩
      rwa [he]
    · next hne =>
      split
      · next hlt =>
        refine List.pairwise_cons.mpr ⟨?_, h⟩
        intro other hm
        rcases List.mem_cons.mp hm with rfl | hm
        · exact hlt
        · exact hlt.trans (hfirst other hm)
      · next hnlt =>
        refine List.pairwise_cons.mpr ⟨?_, ih hrest⟩
        intro other hm
        rcases (mem_insert_iff hrest).mp hm with rfl | ⟨hm, -⟩
        · exact lt_of_le_of_ne (not_lt.mp hnlt) (Ne.symm hne)
        · exact hfirst other hm

end Pair

def chosen (pairs : List Pair) : List Pair := pairs.foldl (fun sorted pair => pair.insert sorted) []

lemma chosen_append_singleton : chosen (pairs ++ [pair]) = pair.insert (chosen pairs) := by
  rw [chosen, List.foldl_append]
  rfl

lemma isSorted_chosen (pairs : List Pair) : Pair.IsSorted (chosen pairs) := by
  induction pairs using List.reverseRecOn with
  | nil => exact .nil
  | append_singleton pairs pair ih =>
    rw [chosen_append_singleton]
    exact ih.insert pair

lemma mem_chosen_iff : pair ∈ chosen pairs ↔ pair.IsLast pairs := by
  induction pairs using List.reverseRecOn with
  | nil => exact ⟨nofun, nofun⟩
  | append_singleton pairs last ih =>
    rw [chosen_append_singleton, Pair.mem_insert_iff (isSorted_chosen pairs), ih,
      Pair.isLast_append_singleton]

lemma isLast_of_chosen {before after : List Pair} (h : chosen pairs = before ++ pair :: after) :
    pair.IsLast pairs := by
  rw [← mem_chosen_iff, h]
  exact List.mem_append_cons_self

lemma key_lt_of_chosen {before after : List Pair} (h : chosen pairs = before ++ pair :: after) :
    (∀ other ∈ before, other.key < pair.key) ∧ ∀ other ∈ after, pair.key < other.key := by
  have hs := isSorted_chosen pairs
  rw [Pair.IsSorted, h, List.pairwise_append, List.pairwise_cons] at hs
  exact ⟨fun other hm => hs.2.2 other hm pair List.mem_cons_self, hs.2.1.1⟩

lemma nodup_keys_chosen (pairs : List Pair) : ((chosen pairs).map Pair.key).Nodup :=
  List.pairwise_map.mpr (List.Pairwise.imp (fun hlt => ne_of_lt hlt) (isSorted_chosen pairs))

end Camouflage.Options

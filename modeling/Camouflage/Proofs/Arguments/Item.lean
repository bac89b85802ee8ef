import Camouflage.Arguments.Item
import Camouflage.Proofs.Port
import Mathlib.Data.List.Induction

namespace Camouflage

namespace Flag

variable {flag : Flag} {word : String}

abbrev Entry := Option String × String × Flag

def Entry.isNamed (word : String) (entry : Entry) : Bool :=
  entry.1 == some word || Text.sameIgnoringCase word.toList entry.2.1.toList

def Entry.folded (entry : Entry) : List (List Char) :=
  (entry.1.toList ++ [entry.2.1]).map fun form => form.toList.map Char.toLower

lemma ofText?_eq (word : String) : ofText? word = (table.find? (Entry.isNamed word)).map (·.2.2) := rfl

lemma isWord_iff : flag.IsWord word ↔ ∃ entry ∈ table, entry.2.2 = flag ∧ Entry.isNamed word entry := by
  rcases flag with _ | _ | (_ | _ | _) | _ | _ | _ | _ <;>
    simp [table, IsWord, IsLong, Entry.isNamed, eq_comm (b := word)]

lemma mem_folded {entry : Entry} (h : Entry.isNamed word entry) :
    word.toList.map Char.toLower ∈ entry.folded := by
  rw [Entry.isNamed, Bool.or_eq_true, beq_iff_eq, Text.sameIgnoringCase, beq_iff_eq] at h
  rcases h with h | h
  · simp [Entry.folded, h]
  · simp [Entry.folded, h]

/-- No word names two flags. -/
lemma eq_of_mem_folded {entry entry' : Entry} {form : List Char} (he : entry ∈ table)
    (he' : entry' ∈ table) (h : form ∈ entry.folded) (h' : form ∈ entry'.folded) : entry = entry' := by
  have hall : ∀ entry ∈ table, ∀ entry' ∈ table, ∀ form ∈ Entry.folded entry,
      form ∈ Entry.folded entry' → entry = entry' := by decide +kernel
  exact hall entry he entry' he' form h h'

lemma ofText?_eq_some_iff : ofText? word = some flag ↔ flag.IsWord word := by
  rw [isWord_iff, ofText?_eq, Option.map_eq_some_iff]
  constructor
  · rintro ⟨entry, hf, rfl⟩
    exact ⟨entry, List.mem_of_find?_eq_some hf, rfl, List.find?_some hf⟩
  · rintro ⟨entry, hm, rfl, hn⟩
    cases hf : table.find? (Entry.isNamed word) with
    | none => exact absurd hn (List.find?_eq_none.mp hf entry hm)
    | some found =>
      have hfound := List.find?_some hf
      have he := eq_of_mem_folded (List.mem_of_find?_eq_some hf) hm (mem_folded hfound) (mem_folded hn)
      exact ⟨found, rfl, congrArg (·.2.2) he⟩

lemma ofText?_eq_none_iff : ofText? word = none ↔ ∀ flag : Flag, ¬ flag.IsWord word := by
  rw [Option.eq_none_iff_forall_ne_some]
  exact forall_congr' fun flag => not_congr ofText?_eq_some_iff

lemma IsWord.ne_empty (h : flag.IsWord word) : word ≠ "" := by
  rintro rfl
  have hn : ofText? "" = none := by decide +kernel
  exact ofText?_eq_none_iff.mp hn flag h

lemma IsWord.level_ne {level : Verbosity} (h : (verbosity level).IsWord word) : level ≠ .normal := by
  rintro rfl
  exact h

end Flag

namespace Arguments

def after (items : List Item) : Arguments := items.foldl Item.apply initial

namespace Item

variable {item : Item} {items items' done : List Item} {piece front words words' : List String}
  {level level' : Verbosity} {text flag : String}

lemma AllWritten.append (h : AllWritten items words) (h' : AllWritten items' words') :
    AllWritten (items ++ items') (words ++ words') := by
  induction h with
  | nil => exact h'
  | cons hw _ ih =>
    rw [List.append_assoc]
    exact .cons hw ih

lemma AllWritten.exists_written (h : AllWritten items words) (hm : item ∈ items) :
    ∃ piece, Written item piece := by
  induction h with
  | nil => cases hm
  | cons hw _ ih =>
    rcases List.mem_cons.mp hm with rfl | hm
    · exact ⟨_, hw⟩
    · exact ih hm

lemma AllWritten.level_ne (h : AllWritten items words) (hm : .verbosity level ∈ items) :
    level ≠ .normal := by
  obtain ⟨piece, hw⟩ := h.exists_written hm
  cases hw with
  | verbosity hw => exact hw.level_ne

lemma AllWritten.text_ne (h : AllWritten items words) (hm : .options text ∈ items) : text ≠ "" := by
  obtain ⟨piece, hw⟩ := h.exists_written hm
  cases hw with
  | options _ ht => exact ht

lemma Conflict.append_left (h : Conflict items) (items' : List Item) : Conflict (items ++ items') :=
  ⟨List.mem_append_left _ h.1, List.mem_append_left _ h.2⟩

lemma Conflict.append_right (items : List Item) (h : Conflict items') : Conflict (items ++ items') :=
  ⟨List.mem_append_right _ h.1, List.mem_append_right _ h.2⟩

lemma mem_verbosities_iff : level ∈ items.filterMap verbosity? ↔ .verbosity level ∈ items := by
  have hv : ∀ item, verbosity? item = some level ↔ item = .verbosity level := by
    intro item
    cases item <;> simp [verbosity?]
  simp [List.mem_filterMap, hv]

lemma mem_texts_iff : text ∈ items.filterMap options? ↔ .options text ∈ items := by
  have ho : ∀ item, options? item = some text ↔ item = .options text := by
    intro item
    cases item <;> simp [options?]
  simp [List.mem_filterMap, ho]

lemma after_append_singleton (items : List Item) (item : Item) :
    after (items ++ [item]) = item.apply (after items) := by
  rw [after, after, List.foldl_append]
  rfl

lemma after_eq (items : List Item) :
    after items = { ofItems items with options := (items.filterMap options?).getLastD "" } := by
  induction items using List.reverseRecOn with
  | nil => rfl
  | append_singleton items item ih =>
    rw [after_append_singleton, ih]
    cases item <;> simp [apply, ofItems, verbosity?, localPort?, remotePort?, remoteHost?, options?]

lemma withDefaults_after (h : AllWritten items words) : (after items).withDefaults = ofItems items := by
  rw [after_eq, withDefaults]
  rcases List.eq_nil_or_concat (items.filterMap options?) with hn | ⟨texts, text, hn⟩
  · simp [ofItems, hn]
  · have hm : text ∈ items.filterMap options? := by simp [hn]
    have ht := h.text_ne (mem_texts_iff.mp hm)
    simp [ofItems, hn, ht]

lemma eq_of_mem (h : AllWritten items words) (hc : ¬ Conflict items) (hm : .verbosity level ∈ items)
    (hm' : .verbosity level' ∈ items) : level = level' := by
  have hl := h.level_ne hm
  have hl' := h.level_ne hm'
  cases level <;> cases level' <;> simp_all [Conflict]

lemma verbosity_ofItems (h : AllWritten items words) (hc : ¬ Conflict items) (hl : level ≠ .normal) :
    (ofItems items).verbosity = level ↔ .verbosity level ∈ items := by
  change (items.filterMap verbosity?).getLastD .normal = level ↔ _
  rw [← mem_verbosities_iff]
  rcases List.eq_nil_or_concat (items.filterMap verbosity?) with hn | ⟨levels, last, hn⟩
  · simp [hn, hl.symm]
  · have hlast : last ∈ items.filterMap verbosity? := by simp [hn]
    have hv : (items.filterMap verbosity?).getLastD .normal = last := by simp [hn]
    rw [hv]
    constructor
    · rintro rfl
      exact hlast
    · intro hm
      exact eq_of_mem h hc (mem_verbosities_iff.mp hlast) (mem_verbosities_iff.mp hm)

lemma agrees_iff (h : AllWritten done front) (hc : ¬ Conflict done) (hl : level ≠ .normal) :
    (after done).verbosity = .normal ∨ (after done).verbosity = level ↔
      ¬ Conflict (done ++ [.verbosity level]) := by
  have hv : ∀ level, level ≠ .normal → (.verbosity level ∈ done ↔ (after done).verbosity = level) := by
    intro level hl
    rw [after_eq]
    exact (verbosity_ofItems h hc hl).symm
  simp only [Conflict, List.mem_append, List.mem_singleton, hv .verbose nofun, hv .quiet nofun,
    verbosity.injEq]
  generalize (after done).verbosity = chosen
  cases chosen <;> cases level <;> simp_all

end Item

end Arguments

end Camouflage

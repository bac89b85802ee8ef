import Camouflage.Options.Inline.Segment
import Camouflage.Proofs.Options.Inline

/-! Options in one line are split as their grammar says: the scanner holds the marks that it has met since the
last bare semicolon. -/

namespace Camouflage.Options

namespace Segment

variable {marks front : List Mark} {segment : Segment} {segments before after : List Segment}
  {fault : SplitFault} {isLone : Bool}

def IsGood (segment : Segment) : Prop :=
  match segment.value with
  | none => Text.AllBlank segment.key
  | some _ => ¬ Text.AllBlank segment.key

inductive Fails (segment : Segment) : SplitFault → Prop
  | missingEquals : segment.value = none → ¬ Text.AllBlank segment.key →
      Fails segment (.missingEquals segment.key)
  | missingKey {value : List Char} : segment.value = some value → Text.AllBlank segment.key →
      Fails segment .missingKey

def written? (segment : Segment) : Option Pair :=
  segment.value.map fun value => ⟨Text.trim segment.key, value⟩

/-- The leftmost segment that is bad, and its fault. A lone backslash makes the last one bad. -/
inductive FirstBad (isLone : Bool) (segments : List Segment) : SplitFault → Prop
  | loneBackslash {before : List Segment} {last : Segment} : isLone = true →
      segments = before ++ [last] → (∀ segment ∈ before, segment.IsGood) →
      FirstBad isLone segments .loneBackslash
  | fails {before after : List Segment} {segment : Segment} {fault : SplitFault} :
      segments = before ++ segment :: after → (∀ segment ∈ before, segment.IsGood) →
      (isLone = true → after ≠ []) → segment.Fails fault → FirstBad isLone segments fault

lemma isGood_or_fails (segment : Segment) : segment.IsGood ∨ ∃ fault, segment.Fails fault := by
  by_cases hb : Text.AllBlank segment.key
  · cases hv : segment.value with
    | none =>
      refine Or.inl ?_
      rw [IsGood, hv]
      exact hb
    | some value => exact Or.inr ⟨_, .missingKey hv hb⟩
  · cases hv : segment.value with
    | none => exact Or.inr ⟨_, .missingEquals hv hb⟩
    | some value =>
      refine Or.inl ?_
      rw [IsGood, hv]
      exact hb

lemma pair?_of_isGood (h : segment.IsGood) : segment.pair? = .ok segment.written? := by
  rw [IsGood] at h
  rw [pair?, written?]
  cases hv : segment.value with
  | none =>
    rw [hv] at h
    exact if_pos (Text.trim_eq_nil_iff.mpr h)
  | some value =>
    rw [hv] at h
    exact if_neg (mt Text.trim_eq_nil_iff.mp h)

lemma pair?_of_fails (h : segment.Fails fault) : segment.pair? = .error fault := by
  rw [pair?]
  cases h with
  | missingEquals hv hb =>
    rw [hv]
    exact if_neg (mt Text.trim_eq_nil_iff.mp hb)
  | missingKey hv hb =>
    rw [hv]
    exact if_pos (Text.trim_eq_nil_iff.mpr hb)

lemma pairs_cons (h : segments ≠ []) : pairs isLone (segment :: segments) =
    match segment.pair? with
    | .error fault => .error fault
    | .ok pair => (pairs isLone segments).map (pair.toList ++ ·) := by
  cases segments with
  | nil => exact absurd rfl h
  | cons => rfl

lemma pairs_of_isGood (h : ∀ segment ∈ segments, segment.IsGood) :
    pairs false segments = .ok (segments.filterMap written?) := by
  induction segments with
  | nil => rfl
  | cons segment segments ih =>
    have hp := pair?_of_isGood (h segment List.mem_cons_self)
    have hi := ih fun other hm => h other (List.mem_cons_of_mem _ hm)
    have hf : (segment :: segments).filterMap written? =
        segment.written?.toList ++ segments.filterMap written? := by
      rw [List.filterMap_cons]
      cases segment.written? <;> rfl
    rw [hf]
    by_cases hs : segments = []
    · rw [hs, pairs, hp, List.filterMap_nil, List.append_nil]
      rfl
    · rw [pairs_cons hs, hp, hi]
      rfl

lemma pairs_append_of_isGood (h : ∀ segment ∈ before, segment.IsGood) (hn : after ≠ [])
    (hf : pairs isLone after = .error fault) : pairs isLone (before ++ after) = .error fault := by
  induction before with
  | nil => exact hf
  | cons segment before ih =>
    have hi := ih fun other hm => h other (List.mem_cons_of_mem _ hm)
    rw [List.cons_append, pairs_cons (List.append_ne_nil_of_right_ne_nil before hn),
      pair?_of_isGood (h segment List.mem_cons_self), hi]
    rfl

lemma pairs_of_firstBad (h : FirstBad isLone segments fault) : pairs isLone segments = .error fault := by
  cases h with
  | @loneBackslash before last hl hs hb =>
    rw [hs]
    refine pairs_append_of_isGood hb (List.cons_ne_nil _ _) ?_
    rw [pairs, if_pos hl]
  | @fails before after segment fault hs hb hn hf =>
    rw [hs]
    refine pairs_append_of_isGood hb (List.cons_ne_nil _ _) ?_
    cases after with
    | nil =>
      rw [pairs, if_neg fun hl => hn hl rfl, pair?_of_fails hf]
      rfl
    | cons other after => rw [pairs_cons (List.cons_ne_nil _ _), pair?_of_fails hf]

lemma FirstBad.cons (h : FirstBad isLone segments fault) (hg : segment.IsGood) :
    FirstBad isLone (segment :: segments) fault := by
  have hall : ∀ {before : List Segment}, (∀ other ∈ before, other.IsGood) →
      ∀ other ∈ segment :: before, other.IsGood := by
    intro before hb
    exact List.forall_mem_cons.mpr ⟨hg, hb⟩
  cases h with
  | loneBackslash hl hs hb => exact .loneBackslash hl (congrArg (segment :: ·) hs) (hall hb)
  | fails hs hb hn hf => exact .fails (congrArg (segment :: ·) hs) (hall hb) hn hf

lemma good_or_firstBad (h : segments ≠ []) :
    isLone = false ∧ (∀ segment ∈ segments, segment.IsGood) ∨ ∃ fault, FirstBad isLone segments fault := by
  induction segments with
  | nil => exact absurd rfl h
  | cons segment segments ih =>
    by_cases hs : segments = []
    · rw [hs]
      cases isLone with
      | true => exact Or.inr ⟨_, .loneBackslash rfl (List.nil_append _).symm (List.forall_mem_nil _)⟩
      | false =>
        rcases segment.isGood_or_fails with hg | ⟨fault, hf⟩
        · exact Or.inl ⟨rfl, List.forall_mem_singleton.mpr hg⟩
        · exact Or.inr ⟨fault, .fails (List.nil_append _).symm (List.forall_mem_nil _) nofun hf⟩
    · rcases segment.isGood_or_fails with hg | ⟨fault, hf⟩
      · rcases ih hs with ⟨hl, hall⟩ | ⟨fault, hb⟩
        · exact Or.inl ⟨hl, List.forall_mem_cons.mpr ⟨hg, hall⟩⟩
        · exact Or.inr ⟨fault, hb.cons hg⟩
      · exact Or.inr ⟨fault, .fails (List.nil_append _).symm (List.forall_mem_nil _) (fun _ => hs) hf⟩

lemma ofMarks_of_notMem (h : .equals ∉ marks) : ofMarks marks = ⟨marks.map Mark.char, none⟩ := by
  have hne : ∀ mark ∈ marks, decide (mark ≠ .equals) = true := by
    intro mark hm
    exact decide_eq_true (ne_of_mem_of_not_mem hm h)
  rw [ofMarks, List.takeWhile_eq_self_iff.mpr hne, List.dropWhile_eq_nil_iff.mpr hne]

lemma ofMarks_append (h : .equals ∉ front) : ofMarks (front ++ .equals :: marks) =
    ⟨front.map Mark.char, some (marks.map Mark.char)⟩ := by
  have hne : ∀ mark ∈ front, decide (mark ≠ .equals) = true := by
    intro mark hm
    exact decide_eq_true (ne_of_mem_of_not_mem hm h)
  rw [ofMarks, List.takeWhile_append_of_pos hne, List.dropWhile_append_of_pos hne]
  simp

end Segment

namespace Mark

variable {c : Char}

lemma char_ofBare (c : Char) : (ofBare c).char = c := by
  unfold ofBare
  split
  · next h => exact h.symm
  · split
    · next h => exact h.symm
    · rfl

lemma ofBare_eq_equals_iff : ofBare c = .equals ↔ c = '=' := by
  unfold ofBare
  split
  · next h => simp [h]
  · split
    · next h => simp [h]
    · next h => simp [h]

lemma ofBare_ne_semicolon (h : c ≠ ';') : ofBare c ≠ .semicolon := by
  unfold ofBare
  rw [if_neg h]
  split <;> nofun

lemma ofText_of_ne (h : c ≠ '\\') (rest : List Char) :
    ofText (c :: rest) = (ofBare c :: (ofText rest).1, (ofText rest).2) := by
  rw [ofText.eq_def]
  exact if_neg h

lemma ofText_backslash (c : Char) (rest : List Char) :
    ofText ('\\' :: c :: rest) = (.literal c :: (ofText rest).1, (ofText rest).2) := by
  rw [ofText.eq_def]
  exact if_pos rfl

end Mark

namespace Entry

variable {marks : List Mark} {mark : Mark}

def ofMarks (marks : List Mark) : Entry where
  key := (Segment.ofMarks marks).key.reverse
  value := (Segment.ofMarks marks).value.map List.reverse

lemma finish_ofMarks (marks : List Mark) : (ofMarks marks).finish = (Segment.ofMarks marks).pair? := by
  simp only [finish, ofMarks, Segment.pair?, List.reverse_reverse]
  cases (Segment.ofMarks marks).value with
  | none => rfl
  | some value => simp only [Option.map_some, List.reverse_reverse]

lemma value_ofMarks_eq_none_iff : (ofMarks marks).value = none ↔ .equals ∉ marks := by
  rw [ofMarks, Option.map_eq_none_iff]
  constructor
  · intro h hm
    obtain ⟨front, rest, rfl, hn⟩ := List.eq_append_cons_of_mem hm
    rw [Segment.ofMarks_append hn] at h
    cases h
  · intro h
    rw [Segment.ofMarks_of_notMem h]

lemma push_ofMarks (h : mark = .equals → .equals ∈ marks) :
    (ofMarks marks).push mark.char = ofMarks (marks ++ [mark]) := by
  by_cases hm : .equals ∈ marks
  · obtain ⟨front, rest, rfl, hn⟩ := List.eq_append_cons_of_mem hm
    rw [List.append_assoc, List.cons_append, ofMarks, ofMarks, Segment.ofMarks_append hn,
      Segment.ofMarks_append hn]
    simp [push]
  · have hne : .equals ∉ marks ++ [mark] := by
      rw [List.mem_append, List.mem_singleton, not_or]
      exact ⟨hm, fun he => hm (h he.symm)⟩
    rw [ofMarks, ofMarks, Segment.ofMarks_of_notMem hm, Segment.ofMarks_of_notMem hne]
    simp [push]

lemma equals_ofMarks (h : .equals ∉ marks) :
    { ofMarks marks with value := some [] } = ofMarks (marks ++ [.equals]) := by
  rw [ofMarks, ofMarks, Segment.ofMarks_of_notMem h, Segment.ofMarks_append h]
  rfl

end Entry

variable {text rest : List Char} {marks : List Mark}

lemma semicolon_notMem_append {mark : Mark} (h : .semicolon ∉ marks) (hm : mark ≠ .semicolon) :
    .semicolon ∉ marks ++ [mark] := by
  rw [List.mem_append, List.mem_singleton, not_or]
  exact ⟨h, hm.symm⟩

lemma segments_ne_nil (marks : List Mark) : (marks.splitOn .semicolon).map Segment.ofMarks ≠ [] :=
  List.map_eq_nil_iff.not.mpr (List.splitOn_ne_nil _ _)

lemma splitFrom_ofMarks (h : .semicolon ∉ marks) (text : List Char) :
    splitFrom (.ofMarks marks) text = Segment.pairs (Mark.ofText text).2
      (((marks ++ (Mark.ofText text).1).splitOn .semicolon).map Segment.ofMarks) := by
  -- along the scanner: `marks` are those since the last bare semicolon, and the entry is what it keeps of them
  generalize he : Entry.ofMarks marks = entry
  fun_induction splitFrom entry text generalizing marks with
  | case1 entry =>
    rw [Mark.ofText, List.append_nil, List.splitOn_eq_singleton h, ← he, Entry.finish_ofMarks]
    rfl
  | case2 entry =>
    have ht : Mark.ofText ['\\'] = ([], true) := rfl
    rw [ht, List.append_nil, List.splitOn_eq_singleton h]
    rfl
  | case3 entry c rest ih =>
    have hn : .semicolon ∉ marks ++ [.literal c] := semicolon_notMem_append h (by nofun)
    have hm : Mark.literal c = .equals → .equals ∈ marks := by nofun
    have hp := Entry.push_ofMarks hm
    rw [← he] at ih ⊢
    rw [Mark.ofText_backslash, List.append_cons marks]
    exact ih hn hp.symm
  | case4 entry c rest hc hequals ih =>
    obtain ⟨rfl, hv⟩ := hequals
    have ht : Mark.ofBare '=' = .equals := rfl
    rw [← he] at hv
    have hn : .semicolon ∉ marks ++ [.equals] := semicolon_notMem_append h (by nofun)
    have hp := Entry.equals_ofMarks (Entry.value_ofMarks_eq_none_iff.mp hv)
    rw [← he] at ih ⊢
    rw [Mark.ofText_of_ne hc, ht, List.append_cons marks]
    exact ih hn hp.symm
  | case5 entry rest fault hf hc hequals =>
    have ht : Mark.ofBare ';' = .semicolon := rfl
    rw [← he, Entry.finish_ofMarks] at hf
    rw [Mark.ofText_of_ne hc, ht, List.splitOn_append_cons_self_of_not_mem h, List.map_cons,
      Segment.pairs_cons (segments_ne_nil _), hf]
  | case6 entry rest pair hf hc hequals ih =>
    have ht : Mark.ofBare ';' = .semicolon := rfl
    have hi := ih List.not_mem_nil rfl
    rw [← he, Entry.finish_ofMarks] at hf
    rw [Mark.ofText_of_ne hc, ht, List.splitOn_append_cons_self_of_not_mem h, List.map_cons,
      Segment.pairs_cons (segments_ne_nil _), hf, hi, List.nil_append]
  | case7 entry c rest hc hequals hsemicolon ih =>
    have hm : Mark.ofBare c = .equals → .equals ∈ marks := by
      intro hb
      rw [← he, Entry.value_ofMarks_eq_none_iff, not_and, not_not] at hequals
      exact hequals (Mark.ofBare_eq_equals_iff.mp hb)
    have hn := semicolon_notMem_append h (Mark.ofBare_ne_semicolon hsemicolon)
    have hp := Entry.push_ofMarks hm
    rw [Mark.char_ofBare] at hp
    rw [← he] at ih ⊢
    rw [Mark.ofText_of_ne hc, List.append_cons marks]
    exact ih hn hp.symm

lemma split_eq_pairs (text : List Char) :
    split text = Segment.pairs (Mark.ofText text).2 (segments text) :=
  splitFrom_ofMarks List.not_mem_nil text

lemma split_of_isGood (hl : (Mark.ofText text).2 = false) (hg : ∀ segment ∈ segments text, segment.IsGood) :
    split text = .ok ((segments text).filterMap Segment.written?) := by
  rw [split_eq_pairs, hl]
  exact Segment.pairs_of_isGood hg

lemma split_of_firstBad {fault : SplitFault}
    (h : Segment.FirstBad (Mark.ofText text).2 (segments text) fault) : split text = .error fault := by
  rw [split_eq_pairs]
  exact Segment.pairs_of_firstBad h

/-- A text splits just when no lone backslash ends it and all its segments are good, and then into the pairs
of those with an equals sign. Any other text fails with the fault of its leftmost bad segment. So pairs come
back from where they were written with a backslash before each mark. -/
theorem split_follows_grammar :
    (∀ text pairs, split text = .ok pairs ↔
      (Mark.ofText text).2 = false ∧ (∀ segment ∈ segments text, segment.IsGood) ∧
      pairs = (segments text).filterMap Segment.written?) ∧
    (∀ text fault, split text = .error fault ↔
      Segment.FirstBad (Mark.ofText text).2 (segments text) fault) ∧
    ∀ pairs : List Pair, (∀ pair ∈ pairs, pair.IsKeyed) → split (writePairs pairs) = .ok pairs := by
  refine ⟨?_, ?_, ?_⟩
  · intro text pairs
    constructor
    · intro h
      rcases Segment.good_or_firstBad (segments_ne_nil _) with ⟨hl, hg⟩ | ⟨fault, hb⟩
      · exact ⟨hl, hg, Except.ok.inj (h.symm.trans (split_of_isGood hl hg))⟩
      · cases h.symm.trans (split_of_firstBad hb)
    · rintro ⟨hl, hg, rfl⟩
      exact split_of_isGood hl hg
  · intro text fault
    constructor
    · intro h
      rcases Segment.good_or_firstBad (segments_ne_nil _) with ⟨hl, hg⟩ | ⟨fault', hb⟩
      · cases h.symm.trans (split_of_isGood hl hg)
      · cases h.symm.trans (split_of_firstBad hb)
        exact hb
    · exact split_of_firstBad
  · intro pairs h
    have hs := split_writePairs h (Or.inl rfl)
    rwa [List.append_nil] at hs

theorem marks_come_back : split "a\\;b=\\=\\\\ ;k=".toList =
    .ok [⟨"a;b".toList, "=\\ ".toList⟩, ⟨"k".toList, []⟩] := by
  refine split_follows_grammar.2.2 [⟨"a;b".toList, "=\\ ".toList⟩, ⟨"k".toList, []⟩] ?_
  simp only [List.forall_mem_cons, Pair.IsKeyed]
  decide

end Camouflage.Options

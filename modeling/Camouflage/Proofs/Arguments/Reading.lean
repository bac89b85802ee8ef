import Camouflage.Proofs.Arguments.Item

/-! Reading a command line takes the items in front one by one. It ends at two verbosities that conflict, or
else at what stands behind the items. -/

namespace Camouflage

namespace Request

open Arguments Arguments.Item

inductive Halts : List String → Except ArgumentError Request → Prop
  | help {word} : Flag.help.IsWord word → Halts [word] (.ok .help)
  | version {word} : Flag.version.IsWord word → Halts [word] (.ok .version)
  | unknown {word} : word ≠ "" → (∀ flag : Flag, ¬ flag.IsWord word) →
      Halts [word] (.error (.unknown word))
  | badPort {flag : Flag} {word value fault} : flag = .localPort ∨ flag = .remotePort → flag.IsWord word →
      Port.ofText value.toList = .error fault → Halts [word, value] (.error (.badPort fault word value))
  | emptyHost {word} : Flag.remoteHost.IsWord word → Halts [word, ""] (.error (.missingHost word))
  | emptyOptions {word} : Flag.options.IsWord word →
      Halts [word, ""] (.error (.missingOptions word))

inductive Lacks : String → ArgumentError → Prop
  | port {flag : Flag} {word} : flag = .localPort ∨ flag = .remotePort → flag.IsWord word →
      Lacks word (.missingPort word)
  | host {word} : Flag.remoteHost.IsWord word → Lacks word (.missingHost word)
  | options {word} : Flag.options.IsWord word → Lacks word (.missingOptions word)

inductive Ends : List String → Prop
  | done : Ends []
  | halts {piece result} (rest : List String) : Halts piece result → Ends (piece ++ rest)
  | lacks {word error} : Lacks word error → Ends [word]

variable {item : Item} {items done : List Item} {piece front words : List String} {word : String}
  {result : Except ArgumentError Request} {error : ArgumentError}

lemma parseFrom_of_halts (h : Halts piece result) (arguments : Arguments) (rest : List String) :
    parseFrom arguments (piece ++ rest) = result := by
  cases h with
  | help hw => simp [parseFrom, hw.ne_empty, Flag.ofText?_eq_some_iff.mpr hw]
  | version hw => simp [parseFrom, hw.ne_empty, Flag.ofText?_eq_some_iff.mpr hw]
  | unknown hn hw => simp [parseFrom, hn, Flag.ofText?_eq_none_iff.mpr hw]
  | badPort hf hw hp =>
    have hflag := Flag.ofText?_eq_some_iff.mpr hw
    rcases hf with rfl | rfl <;> simp [parseFrom, hw.ne_empty, hflag, Arguments.port, hp]
  | emptyHost hw => simp [parseFrom, hw.ne_empty, Flag.ofText?_eq_some_iff.mpr hw]
  | emptyOptions hw => simp [parseFrom, hw.ne_empty, Flag.ofText?_eq_some_iff.mpr hw]

lemma parseFrom_of_lacks (h : Lacks word error) (arguments : Arguments) :
    parseFrom arguments [word] = .error error := by
  cases h with
  | port hf hw =>
    have hflag := Flag.ofText?_eq_some_iff.mpr hw
    rcases hf with rfl | rfl <;> simp [parseFrom, hw.ne_empty, hflag]
  | host hw => simp [parseFrom, hw.ne_empty, Flag.ofText?_eq_some_iff.mpr hw]
  | options hw => simp [parseFrom, hw.ne_empty, Flag.ofText?_eq_some_iff.mpr hw]

lemma parseFrom_written (hd : AllWritten done front) (h : Written item piece)
    (hc : ¬ Conflict (done ++ [item])) (rest : List String) :
    parseFrom (after done) (piece ++ rest) = parseFrom (after (done ++ [item])) rest := by
  rw [after_append_singleton]
  cases h with
  | nothing =>
    rw [List.singleton_append, parseFrom.eq_def]
    exact if_pos rfl
  | @verbosity level word hw =>
    have hdone : ¬ Conflict done := fun hb => hc (hb.append_left _)
    have hs : (after done).setVerbosity word level = .ok (apply (after done) (.verbosity level)) :=
      if_pos ((agrees_iff hd hdone hw.level_ne).mpr hc)
    simp [parseFrom, hw.ne_empty, Flag.ofText?_eq_some_iff.mpr hw, hs]
  | localPort hw hp =>
    simp [parseFrom, hw.ne_empty, Flag.ofText?_eq_some_iff.mpr hw, Arguments.port,
      Port.ofText_eq_ok_iff.mpr hp, apply]
  | remotePort hw hp =>
    simp [parseFrom, hw.ne_empty, Flag.ofText?_eq_some_iff.mpr hw, Arguments.port,
      Port.ofText_eq_ok_iff.mpr hp, apply]
  | remoteHost hw hh => simp [parseFrom, hw.ne_empty, Flag.ofText?_eq_some_iff.mpr hw, hh, apply]
  | options hw ht => simp [parseFrom, hw.ne_empty, Flag.ofText?_eq_some_iff.mpr hw, ht, apply]

lemma exists_flag_of_written (hd : AllWritten done front) (hn : ¬ Conflict done)
    (h : Written item piece) (hc : Conflict (done ++ [item])) : ∃ flag, ∀ rest,
      parseFrom (after done) (piece ++ rest) = .error (.conflictingVerbosity flag) := by
  cases h with
  | @verbosity level word hw =>
    have hs : (after done).setVerbosity word level = .error (.conflictingVerbosity word) :=
      if_neg fun ha => (agrees_iff hd hn hw.level_ne).mp ha hc
    refine ⟨word, ?_⟩
    intro rest
    simp [parseFrom, hw.ne_empty, Flag.ofText?_eq_some_iff.mpr hw, hs]
  | _ => exact absurd hc (by simpa [Conflict] using hn)

lemma parseFrom_allWritten (hd : AllWritten done front) (h : AllWritten items words)
    (hc : ¬ Conflict (done ++ items)) (rest : List String) :
    parseFrom (after done) (words ++ rest) = parseFrom (after (done ++ items)) rest := by
  -- `done` are the items taken so far: with them it is settled which verbosities are still free
  induction h generalizing done front with
  | nil => rw [List.append_nil, List.nil_append]
  | @cons item items piece words hw _ ih =>
    rw [List.append_cons done item items] at hc
    have hone : ¬ Conflict (done ++ [item]) := fun hb => hc (hb.append_left _)
    have hd' : AllWritten (done ++ [item]) (front ++ (piece ++ [])) := hd.append (.cons hw .nil)
    rw [List.append_assoc, parseFrom_written hd hw hone, List.append_cons done item items]
    exact ih hd' hc

lemma exists_flag_of_conflict (hd : AllWritten done front) (hn : ¬ Conflict done)
    (h : AllWritten items words) (hc : Conflict (done ++ items)) : ∃ flag, ∀ rest,
      parseFrom (after done) (words ++ rest) = .error (.conflictingVerbosity flag) := by
  induction h generalizing done front with
  | nil => exact absurd hc (by rwa [List.append_nil])
  | @cons item items piece words hw _ ih =>
    -- either this item completes the conflict, or a later one does
    by_cases hone : Conflict (done ++ [item])
    · obtain ⟨flag, hf⟩ := exists_flag_of_written hd hn hw hone
      refine ⟨flag, ?_⟩
      intro rest
      rw [List.append_assoc]
      exact hf _
    · have hd' : AllWritten (done ++ [item]) (front ++ (piece ++ [])) := hd.append (.cons hw .nil)
      rw [List.append_cons done item items] at hc
      obtain ⟨flag, hf⟩ := ih hd' hone hc
      refine ⟨flag, ?_⟩
      intro rest
      rw [List.append_assoc, parseFrom_written hd hw hone]
      exact hf rest

lemma ends_or_denotes {flag : Flag} (hf : flag = .localPort ∨ flag = .remotePort) (hw : flag.IsWord word)
    (rest : List String) : Ends (word :: rest) ∨
      ∃ port value rest', rest = value :: rest' ∧ Port.Denotes value.toList port := by
  cases rest with
  | nil => exact Or.inl (.lacks (.port hf hw))
  | cons value rest =>
    cases hp : Port.ofText value.toList with
    | error fault => exact Or.inl (.halts rest (.badPort hf hw hp))
    | ok port => exact Or.inr ⟨port, value, rest, rfl, Port.ofText_eq_ok_iff.mp hp⟩

lemma ends_or_written (words : List String) :
    Ends words ∨ ∃ item piece rest, words = piece ++ rest ∧ Written item piece := by
  cases words with
  | nil => exact Or.inl .done
  | cons word rest =>
    by_cases hn : word = ""
    · rw [hn]
      exact Or.inr ⟨_, [""], rest, rfl, .nothing⟩
    · cases hf : Flag.ofText? word with
      | none => exact Or.inl (.halts rest (.unknown hn (Flag.ofText?_eq_none_iff.mp hf)))
      | some flag =>
        have hw := Flag.ofText?_eq_some_iff.mp hf
        cases flag with
        | help => exact Or.inl (.halts rest (.help hw))
        | version => exact Or.inl (.halts rest (.version hw))
        | verbosity level => exact Or.inr ⟨_, [word], rest, rfl, .verbosity hw⟩
        | localPort =>
          rcases ends_or_denotes (Or.inl rfl) hw rest with he | ⟨port, value, rest, rfl, hp⟩
          · exact Or.inl he
          · exact Or.inr ⟨_, [word, value], rest, rfl, .localPort hw hp⟩
        | remotePort =>
          rcases ends_or_denotes (Or.inr rfl) hw rest with he | ⟨port, value, rest, rfl, hp⟩
          · exact Or.inl he
          · exact Or.inr ⟨_, [word, value], rest, rfl, .remotePort hw hp⟩
        | remoteHost =>
          cases rest with
          | nil => exact Or.inl (.lacks (.host hw))
          | cons host rest =>
            by_cases hh : host = ""
            · rw [hh]
              exact Or.inl (.halts rest (.emptyHost hw))
            · exact Or.inr ⟨_, [word, host], rest, rfl, .remoteHost hw hh⟩
        | options =>
          cases rest with
          | nil => exact Or.inl (.lacks (.options hw))
          | cons text rest =>
            by_cases ht : text = ""
            · rw [ht]
              exact Or.inl (.halts rest (.emptyOptions hw))
            · exact Or.inr ⟨_, [word, text], rest, rfl, .options hw ht⟩

lemma exists_items (words : List String) : ∃ items front rest, words = front ++ rest ∧
    AllWritten items front ∧ Ends rest := by
  induction hl : words.length using Nat.strongRecOn generalizing words with
  | ind length ih =>
    rcases ends_or_written words with he | ⟨item, piece, rest, rfl, hw⟩
    · exact ⟨[], [], words, rfl, .nil, he⟩
    · have hlt : rest.length < length := by
        have hp : 0 < piece.length := by cases hw <;> exact Nat.succ_pos _
        rw [List.length_append] at hl
        omega
      obtain ⟨items, front, rest, rfl, ha, he⟩ := ih rest.length hlt rest rfl
      exact ⟨item :: items, piece ++ front, rest, (List.append_assoc _ _ _).symm, .cons hw ha, he⟩

end Request

end Camouflage

import Camouflage.Proofs.Arguments.Reading

namespace Camouflage.Request

open Arguments Arguments.Item

inductive Asks (words : List String) : Request → Prop
  | run {items} : AllWritten items words → ¬ Conflict items → Asks words (.run (ofItems items))
  | help {items front word rest} : words = front ++ word :: rest → AllWritten items front →
      ¬ Conflict items → Flag.help.IsWord word → Asks words .help
  | version {items front word rest} : words = front ++ word :: rest → AllWritten items front →
      ¬ Conflict items → Flag.version.IsWord word → Asks words .version

variable {words front rest : List String} {items : List Item} {request : Request}

lemma parse_of_items (hw : words.tail = front ++ rest) (h : AllWritten items front)
    (hc : ¬ Conflict items) : parse words = parseFrom (after items) rest := by
  rw [parse, hw]
  exact parseFrom_allWritten .nil h hc rest

lemma exists_flag_of_items (h : AllWritten items front) (hc : Conflict items) : ∃ flag,
    ∀ {words rest}, words.tail = front ++ rest → parse words = .error (.conflictingVerbosity flag) := by
  have hn : ¬ Conflict [] := by simp [Conflict]
  obtain ⟨flag, hf⟩ := exists_flag_of_conflict .nil hn h hc
  refine ⟨flag, ?_⟩
  intro words rest hw
  rw [parse, hw]
  exact hf rest

lemma parse_of_asks (h : Asks words.tail request) : parse words = .ok request := by
  cases h with
  | run ha hc =>
    rw [parse_of_items (List.append_nil _).symm ha hc, parseFrom, withDefaults_after ha]
  | help hw ha hc hh =>
    rw [parse_of_items hw ha hc]
    exact parseFrom_of_halts (.help hh) _ _
  | version hw ha hc hv =>
    rw [parse_of_items hw ha hc]
    exact parseFrom_of_halts (.version hv) _ _

lemma asks_of_parse (h : parse words = .ok request) : Asks words.tail request := by
  obtain ⟨items, front, rest, hw, ha, he⟩ := exists_items words.tail
  by_cases hc : Conflict items
  · obtain ⟨flag, hf⟩ := exists_flag_of_items ha hc
    cases h.symm.trans (hf hw)
  · rw [parse_of_items hw ha hc] at h
    cases he with
    | done =>
      rw [parseFrom, withDefaults_after ha] at h
      cases h
      rw [hw, List.append_nil]
      exact .run ha hc
    | halts rest hh =>
      rw [parseFrom_of_halts hh] at h
      cases hh with
      | help hword =>
        cases h
        exact .help hw ha hc hword
      | version hword =>
        cases h
        exact .version hw ha hc hword
      | _ => cases h
    | lacks hl =>
      rw [parseFrom_of_lacks hl] at h
      cases h

/-- A command line is accepted just when it is of the grammar, and then for what it asks by its grammar. -/
theorem parse_follows_grammar :
    (∀ words request, parse words = .ok request ↔ Asks words.tail request) ∧
    ∀ words, (∃ error, parse words = .error error) ↔ ∀ request, ¬ Asks words.tail request := by
  refine ⟨fun words request => ⟨asks_of_parse, parse_of_asks⟩, ?_⟩
  intro words
  constructor
  · rintro ⟨error, he⟩ request ha
    cases he.symm.trans (parse_of_asks ha)
  · intro hn
    cases hp : parse words with
    | error error => exact ⟨error, rfl⟩
    | ok request => exact absurd (asks_of_parse hp) (hn request)

example : parse ["tunnel", "-s", "--help", "", "--Quiet", "-p", "+0443", "-s", "-l", "--QUIET"] =
    .ok (.run { initial with verbosity := .quiet, remoteHost := some "-l", options := "gqclient.json" }) := by
  decide +kernel

end Camouflage.Request

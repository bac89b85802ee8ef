import Camouflage.Proofs.Arguments.Grammar

namespace Camouflage

def Flag.TakesValue : Flag → Prop
  | .localPort | .remotePort | .remoteHost | .options => True
  | .help | .version | .verbosity _ => False

def Verbosity.Opposed (level level' : Verbosity) : Prop :=
  level = .verbose ∧ level' = .quiet ∨ level = .quiet ∧ level' = .verbose

namespace Request

open Arguments Arguments.Item

def EndsAtFlag (words : List String) : Prop :=
  ∃ items front word, ∃ flag : Flag, words = front ++ [word] ∧ AllWritten items front ∧ ¬ Conflict items ∧
    flag.TakesValue ∧ flag.IsWord word

variable {words more front front' : List String} {items items' : List Item} {word : String}
  {error : ArgumentError} {flag : Flag} {arguments : Arguments}

lemma exists_takesValue (h : Lacks word error) : ∃ flag : Flag, flag.TakesValue ∧ flag.IsWord word := by
  cases h with
  | @port flag _ hf hw =>
    refine ⟨flag, ?_, hw⟩
    rcases hf with rfl | rfl <;> trivial
  | host hw => exact ⟨.remoteHost, trivial, hw⟩
  | options hw => exact ⟨.options, trivial, hw⟩

lemma exists_lacks (ht : flag.TakesValue) (hw : flag.IsWord word) : ∃ error, Lacks word error := by
  cases flag with
  | localPort => exact ⟨_, .port (Or.inl rfl) hw⟩
  | remotePort => exact ⟨_, .port (Or.inr rfl) hw⟩
  | remoteHost => exact ⟨_, .host hw⟩
  | options => exact ⟨_, .options hw⟩
  | _ => exact ht.elim

lemma exists_written (ht : flag.TakesValue) (hw : flag.IsWord word) :
    ∃ item, Written item [word, "1"] ∧ ∀ level, item ≠ .verbosity level := by
  have hp : Port.Denotes "1".toList 1 := Port.ofText_eq_ok_iff.mp (by decide +kernel)
  cases flag with
  | localPort => exact ⟨_, .localPort hw hp, nofun⟩
  | remotePort => exact ⟨_, .remotePort hw hp, nofun⟩
  | remoteHost => exact ⟨_, .remoteHost hw (by decide), nofun⟩
  | options => exact ⟨_, .options hw (by decide), nofun⟩
  | _ => exact ht.elim

lemma conflict_append_iff (h : AllWritten items words) (h' : AllWritten items' more)
    (hc : ¬ Conflict items) (hc' : ¬ Conflict items') : Conflict (items ++ items') ↔
      (ofItems items).verbosity.Opposed (ofItems items').verbosity := by
  have hv : Verbosity.verbose ≠ .normal := nofun
  have hq : Verbosity.quiet ≠ .normal := nofun
  simp only [Conflict, Verbosity.Opposed, List.mem_append, verbosity_ofItems h hc hv,
    verbosity_ofItems h hc hq, verbosity_ofItems h' hc' hv, verbosity_ofItems h' hc' hq]
  rw [Conflict] at hc hc'
  tauto

lemma exists_items_of_run (h : parse words = .ok (.run arguments)) :
    ∃ items, AllWritten items words.tail ∧ ¬ Conflict items ∧ arguments = ofItems items := by
  cases asks_of_parse h with
  | run ha hc => exact ⟨_, ha, hc, rfl⟩

lemma parse_of_allWritten (ha : AllWritten items words.tail) (hc : ¬ Conflict items) :
    parse words = .ok (.run (ofItems items)) := parse_of_asks (.run ha hc)

lemma parseFrom_of_ends (h : Ends words) (hn : words ≠ []) (arguments other : Arguments) :
    parseFrom arguments words = parseFrom other words := by
  cases h with
  | done => exact absurd rfl hn
  | halts rest hh => rw [parseFrom_of_halts hh, parseFrom_of_halts hh]
  | lacks hl => rw [parseFrom_of_lacks hl, parseFrom_of_lacks hl]

lemma parse_append_of_decided (hn : words ≠ []) (hr : ∀ arguments, parse words ≠ .ok (.run arguments))
    (hf : ¬ EndsAtFlag words.tail) (more : List String) : parse (words ++ more) = parse words := by
  obtain ⟨items, front, rest, hw, ha, he⟩ := exists_items words.tail
  have hw' : (words ++ more).tail = front ++ (rest ++ more) := by
    rw [List.tail_append_of_ne_nil hn, hw, List.append_assoc]
  by_cases hc : Conflict items
  · obtain ⟨flag, hall⟩ := exists_flag_of_items ha hc
    rw [hall hw, hall hw']
  · rw [parse_of_items hw ha hc, parse_of_items hw' ha hc]
    cases he with
    | done =>
      rw [List.append_nil] at hw
      rw [← hw] at ha
      exact absurd (parse_of_allWritten ha hc) (hr _)
    | halts rest hh => rw [List.append_assoc, parseFrom_of_halts hh, parseFrom_of_halts hh]
    | lacks hl =>
      obtain ⟨flag, ht, hword⟩ := exists_takesValue hl
      exact absurd ⟨items, front, _, flag, hw, ha, hc, ht, hword⟩ hf

lemma parse_append_of_run (hn : words ≠ []) (ha : AllWritten items words.tail) {name : String}
    (hr : ∀ other, parse (name :: more) ≠ .ok (.run other)) :
    parse (words ++ more) = parse (name :: more) ∨
      ∃ flag, parse (words ++ more) = .error (.conflictingVerbosity flag) := by
  obtain ⟨items', front, rest, hm, ha', he⟩ := exists_items more
  have hw : (words ++ more).tail = (words.tail ++ front) ++ rest := by
    rw [List.tail_append_of_ne_nil hn, hm, List.append_assoc]
  by_cases hc : Conflict (items ++ items')
  · obtain ⟨flag, hall⟩ := exists_flag_of_items (ha.append ha') hc
    exact Or.inr ⟨flag, hall hw⟩
  · have hc' : ¬ Conflict items' := fun hb => hc (hb.append_right _)
    have hrest : rest ≠ [] := by
      rintro rfl
      rw [List.append_nil] at hm
      rw [← hm] at ha'
      exact hr _ (parse_of_allWritten ha' hc')
    have hname : (name :: more).tail = front ++ rest := hm
    rw [parse_of_items hw (ha.append ha') hc, parse_of_items hname ha' hc']
    exact Or.inl (parseFrom_of_ends he hrest _ _)

lemma exists_change (h : EndsAtFlag words.tail) :
    (∃ error, parse words = .error error) ∧ ∃ more, parse (words ++ more) ≠ parse words := by
  obtain ⟨items, front, word, flag, hw, ha, hc, ht, hword⟩ := h
  obtain ⟨error, hl⟩ := exists_lacks ht hword
  obtain ⟨item, hitem, hv⟩ := exists_written ht hword
  have hn : words ≠ [] := by
    rintro rfl
    exact absurd hw (List.append_ne_nil_of_right_ne_nil front (List.cons_ne_nil _ _)).symm
  have he : parse words = .error error := by
    rw [parse_of_items hw ha hc, parseFrom_of_lacks hl]
  have hall : AllWritten (items ++ [item]) (words ++ ["1"]).tail := by
    have hlast : AllWritten [item] ([word, "1"] ++ []) := .cons hitem .nil
    rw [List.tail_append_of_ne_nil hn, hw, List.append_assoc]
    exact ha.append hlast
  have hnone : ¬ Conflict (items ++ [item]) := by
    simpa [Conflict, (hv _).symm] using hc
  refine ⟨⟨error, he⟩, ["1"], ?_⟩
  rw [he, parse_of_allWritten hall hnone]
  intro hsame
  cases hsame

/-- A line that is not run comes to the same with any words behind it, unless a flag at its end waits for its
value. Behind a line that is run, more words come to what they do on their own, unless the verbosities of the
two conflict. -/
theorem first_decision_stands :
    (∀ words more, words ≠ [] → (∀ arguments, parse words ≠ .ok (.run arguments)) →
      ¬ EndsAtFlag words.tail → parse (words ++ more) = parse words) ∧
    (∀ words, EndsAtFlag words.tail →
      (∃ error, parse words = .error error) ∧ ∃ more, parse (words ++ more) ≠ parse words) ∧
    ∀ words more name arguments, words ≠ [] → parse words = .ok (.run arguments) →
      ((∀ other, parse (name :: more) ≠ .ok (.run other)) →
        parse (words ++ more) = parse (name :: more) ∨
          ∃ flag, parse (words ++ more) = .error (.conflictingVerbosity flag)) ∧
      ∀ other, parse (name :: more) = .ok (.run other) →
        (arguments.verbosity.Opposed other.verbosity →
          ∃ flag, parse (words ++ more) = .error (.conflictingVerbosity flag)) ∧
        (¬ arguments.verbosity.Opposed other.verbosity →
          ∃ both, parse (words ++ more) = .ok (.run both)) := by
  refine ⟨fun words more hn hr hf => parse_append_of_decided hn hr hf more, fun _ => exists_change, ?_⟩
  intro words more name arguments hn h
  obtain ⟨items, ha, hc, rfl⟩ := exists_items_of_run h
  refine ⟨parse_append_of_run hn ha, ?_⟩
  intro other ho
  obtain ⟨items', ha', hc', rfl⟩ := exists_items_of_run ho
  change AllWritten items' more at ha'
  have hall := ha.append ha'
  have hw : (words ++ more).tail = words.tail ++ more := List.tail_append_of_ne_nil hn
  have hiff := conflict_append_iff ha ha' hc hc'
  constructor
  · intro hopposed
    obtain ⟨flag, hf⟩ := exists_flag_of_items hall (hiff.mpr hopposed)
    exact ⟨flag, hf (hw.trans (List.append_nil _).symm)⟩
  · intro hopposed
    rw [← hw] at hall
    exact ⟨_, parse_of_allWritten hall (mt hiff.mp hopposed)⟩

/-- An empty host decides and a missing one does not, a flag that stands as a host is none, and what follows
it is read as on its own, or conflicts with what stands in front. -/
theorem empty_host_decides :
    parse ["tunnel", "-s", "", "-h"] = parse ["tunnel", "-s", ""] ∧
    (∃ more, parse (["tunnel", "-s"] ++ more) ≠ parse ["tunnel", "-s"]) ∧
    (parse ["tunnel", "-s", "--quiet", "--Verbose", "--bogus"] = parse ["", "--bogus"] ∨
      ∃ flag, parse ["tunnel", "-s", "--quiet", "--Verbose", "--bogus"] =
        .error (.conflictingVerbosity flag)) ∧
    (∃ flag, parse ["tunnel", "-s", "--quiet", "--Verbose", "--QUIET"] =
      .error (.conflictingVerbosity flag)) ∧
    ∃ both, parse ["tunnel", "-s", "--quiet", "--Verbose", "-l", "1984"] = .ok (.run both) := by
  have hempty : parse ["tunnel", "-s", ""] = .error (.missingHost "-s") := by decide +kernel
  have hrun : parse ["tunnel", "-s", "--quiet", "--Verbose"] = .ok (.run
      { initial with verbosity := .verbose, remoteHost := some "--quiet", options := "gqclient.json" }) := by
    decide +kernel
  have hbogus : parse ["", "--bogus"] = .error (.unknown "--bogus") := by decide +kernel
  have hquiet : parse ["", "--QUIET"] =
      .ok (.run { initial with verbosity := .quiet, options := "gqclient.json" }) := by decide +kernel
  have hport : parse ["", "-l", "1984"] =
      .ok (.run { initial with localPort := some 1984, options := "gqclient.json" }) := by decide +kernel
  refine ⟨first_decision_stands.1 ["tunnel", "-s", ""] ["-h"] (List.cons_ne_nil _ _) ?_ ?_,
    (first_decision_stands.2.1 ["tunnel", "-s"] ?_).2,
    (first_decision_stands.2.2 _ ["--bogus"] "" _ (List.cons_ne_nil _ _) hrun).1 ?_,
    ((first_decision_stands.2.2 _ ["--QUIET"] "" _ (List.cons_ne_nil _ _) hrun).2 _ hquiet).1 ?_,
    ((first_decision_stands.2.2 _ ["-l", "1984"] "" _ (List.cons_ne_nil _ _) hrun).2 _ hport).2 ?_⟩
  · intro arguments hr
    cases hempty.symm.trans hr
  · rintro ⟨items, front, word, flag, hw, -, -, -, hword⟩
    have hlast := congrArg List.getLast? hw
    rw [List.getLast?_concat] at hlast
    exact hword.ne_empty (Option.some.inj hlast).symm
  · exact ⟨[], [], "-s", .remoteHost, rfl, .nil, by simp [Conflict], trivial, Or.inl rfl⟩
  · intro other hr
    cases hbogus.symm.trans hr
  · exact Or.inl ⟨rfl, rfl⟩
  · rw [Verbosity.Opposed]
    decide

end Request

end Camouflage

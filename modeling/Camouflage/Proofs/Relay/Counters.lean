import Camouflage.Proofs.Relay.BackToBack

namespace Camouflage.Relay

/-- The first units are counted, and were taken in full. Of the unit behind them, if there is one, only a
part was taken, or none of it. -/
def Counts (form : Bytes → Bytes) (units : List Bytes) (taken : Bytes) (count : Nat) : Prop :=
  ∃ counted part, count = counted.flatten.length ∧ taken = counted.flatMap form ++ part ∧
    (units = counted ∧ part = [] ∨
      ∃ next, units = counted ++ [next] ∧ part <+: form next ∧ part ≠ form next)

section

variable {form : Bytes → Bytes} {units before after more : List Bytes} {next taken : Bytes}
  {count : Nat}

lemma Stopped.counts (h : Stopped form [] units taken count) : Counts form units taken count := by
  rcases h with h | ⟨left, size, hl, done, unit, whole, part, hu, _, hd, ht, hp⟩
  · refine ⟨units, [], h.count_eq, ?_, Or.inl ⟨rfl, rfl⟩⟩
    rw [h.taken_eq, List.nil_append, List.append_nil]
  · refine ⟨done, part, hd.count_eq, ?_, Or.inr ⟨unit, hu, ⟨left, hp⟩, ?_⟩⟩
    · rw [ht, hd.taken_eq, List.nil_append]
    · intro he
      exact hl (List.self_eq_append_right.mp (he.trans hp.symm))

lemma Counts.exists_part (h : Counts form units taken count) (more : List Bytes) :
    ∃ counted rest part, units ++ more = counted ++ rest ∧ count = counted.flatten.length ∧
      taken = counted.flatMap form ++ part ∧
      (part = [] ∨ ∃ unit after, rest = unit :: after ∧ part.length < (form unit).length) := by
  obtain ⟨counted, part, hc, ht, ⟨rfl, hp⟩ | ⟨unit, rfl, hp, hne⟩⟩ := h
  · exact ⟨units, more, part, rfl, hc, ht, Or.inl hp⟩
  · refine ⟨counted, unit :: more, part, List.append_assoc _ _ _, hc, ht, Or.inr ⟨unit, more, rfl, ?_⟩⟩
    apply Nat.lt_of_le_of_ne hp.length_le
    intro hl
    exact hne (hp.eq_of_length hl)

lemma Counts.taken_iff (h : Counts form units taken count) (hf : form next ≠ []) (hn : next ≠ [])
    (he : units ++ more = before ++ next :: after) :
    (before ++ [next]).flatMap form <+: taken ↔ (before ++ [next]).flatten.length ≤ count := by
  obtain ⟨counted, rest, part, hr, rfl, rfl, hp⟩ := h.exists_part more
  have hsplit : (before ++ [next]) ++ after = counted ++ rest := by
    rw [← hr, he, List.append_assoc]
    rfl
  -- the unit is either among those that are counted, or behind them
  rcases List.append_eq_append_iff.mp hsplit with ⟨between, hc, _⟩ | ⟨between, hb, hrest⟩
  · rw [hc]
    refine iff_of_true ?_ ?_
    · refine ⟨between.flatMap form ++ part, ?_⟩
      simp only [List.flatMap_append, List.append_assoc]
    · simp only [List.flatten_append, List.length_append]
      omega
  · rw [hb]
    cases between with
    | nil => simp
    | cons unit between =>
      have hmem : next ∈ unit :: between := by
        have hlast := congrArg List.getLast? hb
        rw [List.getLast?_concat, List.getLast?_append_of_ne_nil _ (List.cons_ne_nil _ _)] at hlast
        exact List.mem_of_getLast? hlast.symm
      refine iff_of_false ?_ ?_
      · rw [List.flatMap_append, List.prefix_append_right_inj]
        intro hpart
        rcases hp with rfl | ⟨unit', after', hu, hl⟩
        · exact hf (List.flatMap_eq_nil_iff.mp (List.prefix_nil.mp hpart) next hmem)
        · obtain ⟨rfl, _⟩ := List.cons.inj (hrest.symm.trans hu)
          have hle := hpart.length_le
          rw [List.flatMap_cons, List.length_append] at hle
          omega
      · have hpos := List.length_pos_iff.mpr hn
        have hle := (List.sublist_flatten_of_mem hmem).length_le
        rw [List.flatten_append, List.length_append]
        omega

end

variable {capacities : Capacities} {events : List Link.Event} {relay : Relay}

/-- At every moment of a run, and so where it ends, both counters are exact: what the far side took are
the records of the first reads, which are counted, and a part of the next record that is not all of it;
and what the near side took are the first payloads in the same way. -/
theorem counters_exact (h : Run capacities (start {}) events relay) :
    (∃ reads, reads ++ relay.link.near.source.pieces capacities.nearRead = pieces capacities events ∧
      Counts framed reads relay.link.far.sink.taken relay.flow.sent) ∧
    (∃ read, read ++ relay.link.far.source.bytes =
        (events.flatMap (Link.Event.arrived .far)).flatten ∧
      Counts id (Record.payloads read) relay.link.near.sink.taken relay.flow.received) ∧
    (∀ before next after, pieces capacities events = before ++ next :: after → next ≠ [] →
      ((before ++ [next]).flatMap framed <+: relay.link.far.sink.taken ↔
        (before ++ [next]).flatten.length ≤ relay.flow.sent)) ∧
    (∀ before next after,
      Record.payloads (events.flatMap (Link.Event.arrived .far)).flatten = before ++ next :: after →
      next ≠ [] →
      ((before ++ [next]).flatten <+: relay.link.near.sink.taken ↔
        (before ++ [next]).flatten.length ≤ relay.flow.received)) := by
  obtain ⟨⟨reads, hr, ho⟩, read, hb, _, _, hi⟩ := follows_of_run h
  have hsent : Counts framed reads relay.link.far.sink.taken relay.flow.sent := ho.stopped.counts
  have hreceived : Counts id (Record.payloads read) relay.link.near.sink.taken relay.flow.received := by
    have hs := hi.stopped.counts
    rwa [List.drop_zero] at hs
  refine ⟨⟨reads, hr, hsent⟩, ⟨read, hb, hreceived⟩, ?_, ?_⟩
  · intro before next after he hn
    exact hsent.taken_iff (framed_ne_nil next) hn (hr.trans he)
  · intro before next after he hn
    obtain ⟨more, hm⟩ := Record.payloads_prefix read relay.inboundLane.source.bytes
    have hid : id next ≠ [] := hn
    rw [← hb, ← hm] at he
    have hiff := hreceived.taken_iff hid hn he
    rwa [List.flatMap_id] at hiff

/-- The far side takes one record and three bytes of the next. Then it ends its own stream, and the write
that waits is given up. -/
theorem one_record_counts : ∃ relay, Run ⟨2, 4⟩ (start {}) [.limit .far (some ⟨10, .stalls⟩),
      .arrive .near [[1, 2, 3]], .arrive .far [[0x17, 3, 3, 0, 0, 0x17, 3, 3, 0, 1, 9]],
      .finish .far .closed] relay ∧
    relay.isOver = true ∧
    relay.flow.sent = 2 ∧ [[1, 2]].flatMap framed <+: relay.link.far.sink.taken ∧
    ¬ [[1, 2], [3]].flatMap framed <+: relay.link.far.sink.taken ∧
    relay.flow.received = 1 ∧ [9] <+: relay.link.near.sink.taken := by
  obtain ⟨relay, hr, hover, hs, hc⟩ : ∃ relay, Run ⟨2, 4⟩ (start {})
      [.limit .far (some ⟨10, .stalls⟩), .arrive .near [[1, 2, 3]],
        .arrive .far [[0x17, 3, 3, 0, 0, 0x17, 3, 3, 0, 1, 9]], .finish .far .closed] relay ∧
      relay.isOver = true ∧ relay.flow.sent = 2 ∧ relay.flow.received = 1 :=
    ⟨_, run_through _ _ _, by cbv, by cbv, by cbv⟩
  obtain ⟨-, -, ho, hi⟩ := counters_exact hr
  have hp : pieces ⟨2, 4⟩ [.limit .far (some ⟨10, .stalls⟩), .arrive .near [[1, 2, 3]],
      .arrive .far [[0x17, 3, 3, 0, 0, 0x17, 3, 3, 0, 1, 9]], .finish .far .closed] =
        [[1, 2], [3]] := by cbv
  refine ⟨relay, hr, hover, hs, ?_, ?_, hc, ?_⟩
  · exact (ho [] [1, 2] [[3]] hp (by decide)).mpr (by rw [hs]; decide)
  · intro ht
    have hle := (ho [[1, 2]] [3] [] hp (by decide)).mp ht
    rw [hs] at hle
    exact absurd hle (by decide)
  · exact (hi [[]] [9] [] (by cbv) (by decide)).mpr (by rw [hc]; decide)

end Camouflage.Relay

import Camouflage.Proofs.Relay.Accounts
import Camouflage.Proofs.Relay.Teardown

namespace Camouflage

def Link.Event.IsCalm : Link.Event → Prop
  | .arrive _ chunks => [] ∉ chunks
  | .limit _ new => ∀ l ∈ new, l.refusal = .stalls
  | .finish _ _ | .refuseShut _ _ => False

structure Connection.IsCalm (connection : Connection) : Prop where
  chunks : [] ∉ connection.source.chunks
  ending : connection.source.ending = none
  limit : ∀ l ∈ connection.sink.limit, l.refusal = .stalls

def Sink.IsStalled (sink : Sink) : Prop := sink.limit = some ⟨0, .stalls⟩

lemma Sink.not_isStalled {sink : Sink} (h : sink.limit = none) : ¬ sink.IsStalled := by
  intro hs
  cases h.symm.trans hs

structure Source.IsSteady (source : Source) : Prop where
  chunks : [] ∉ source.chunks
  ending : ∀ ending ∈ source.ending, ending = .closed

def Sink.IsSteady (sink : Sink) : Prop := ∀ l ∈ sink.limit, l.refusal = .stalls

def Sink.Used (before after : Sink) : Prop :=
  after.limit.map Limit.refusal = before.limit.map Limit.refusal

section

variable {source : Source} {sink sink' : Sink} {room : Nat} {bytes left : Bytes}
  {error : IoError} {connection : Connection}

lemma Source.IsSteady.ne_failed (h : source.IsSteady) : source.read room ≠ .failed error := by
  intro hf
  have he := h.ending _ (Source.failed_of_read hf).2
  cases he

lemma Sink.IsSteady.ne_failed (h : sink.IsSteady) : sink.write bytes ≠ .failed error := by
  simp only [write]
  split
  · intro h
    cases h
  · split
    · intro h
      cases h
    · next hl => cases h _ hl
    · next hl => cases h _ hl
    · intro h
      cases h

lemma Sink.used_of_write (h : sink.write bytes = .took left sink') : sink.Used sink' :=
  Sink.refusal_of_write h

lemma Sink.IsSteady.used (h : sink.IsSteady) (hu : sink.Used sink') : sink'.IsSteady := by
  intro l hl
  rw [Used, Option.mem_def.mp hl] at hu
  cases hs : sink.limit with
  | none =>
    rw [hs] at hu
    cases hu
  | some l' =>
    rw [hs] at hu
    exact (Option.some.inj hu).trans (h l' hs)

lemma Connection.IsCalm.steady (h : connection.IsCalm) : connection.source.IsSteady :=
  ⟨h.chunks, by simp [h.ending]⟩

lemma Link.isCalm_apply {link : Link} {event : Event} (he : event.IsCalm)
    (h : ∀ side, (link.on side).IsCalm) (side : Side) : ((link.apply event).on side).IsCalm := by
  obtain ⟨hc, hn, hl⟩ := h side
  cases event with
  | arrive other chunks =>
    refine ⟨?_, ?_, ?_⟩
    · rw [Link.chunks_apply, List.mem_append, not_or]
      refine ⟨hc, ?_⟩
      simp only [Event.arrived]
      split
      · exact he
      · exact List.not_mem_nil
    · cases other <;> cases side <;> exact hn
    · cases other <;> cases side <;> exact hl
  | limit other limit =>
    refine ⟨?_, ?_, ?_⟩
    · cases other <;> cases side <;> exact hc
    · cases other <;> cases side <;> exact hn
    · cases other <;> cases side <;> first | exact he | exact hl
  | finish other ending => exact he.elim
  | refuseShut other error => exact he.elim

end

namespace Relay

variable {capacities : Capacities} {relay relay' : Relay} {events : List Link.Event} {arrived : Bytes}

structure IsCalm (relay : Relay) : Prop where
  paired : relay.Paired
  live : relay.BothLive
  calm : ∀ side, (relay.link.on side).IsCalm

lemma Outbound.Turn.used {room : Nat} {lane lane' : Outbound.Lane} (h : Turn room lane lane') :
    lane.source.Used lane'.source ∧ lane.sink.Used lane'.sink := by
  cases h with
  | read _ hr => exact ⟨Source.used_of_read hr, rfl⟩
  | write _ hw _ => exact ⟨.refl _, Sink.used_of_write hw⟩
  | complete _ hw => exact ⟨.refl _, Sink.used_of_write hw⟩

lemma Inbound.Turn.used {capacity : Nat} {lane lane' : Inbound.Lane} (h : Turn capacity lane lane') :
    lane.source.Used lane'.source ∧ lane.sink.Used lane'.sink := by
  cases h with
  | read _ hr _ => exact ⟨Source.used_of_read hr, rfl⟩
  | skip _ hr _ => exact ⟨Source.used_of_read hr, rfl⟩
  | unwrap _ hr _ _ => exact ⟨Source.used_of_read hr, rfl⟩
  | write _ hw _ => exact ⟨.refl _, Sink.used_of_write hw⟩
  | complete _ hw => exact ⟨.refl _, Sink.used_of_write hw⟩

lemma Inbound.Halt.used {capacity : Nat} {lane : Inbound.Lane} {source : Source}
    {error : Option IoError} (h : Halt capacity lane source error) : lane.source.Used source := by
  cases h with
  | tooLong _ hr _ => exact Source.used_of_read hr
  | _ => exact .refl _

lemma used_of_turn (h : Turn capacities relay relay') (side : Side) :
    (relay.link.on side).source.Used (relay'.link.on side).source ∧
      (relay.link.on side).sink.Used (relay'.link.on side).sink := by
  have ho : relay.outboundLane.source.Used relay'.outboundLane.source ∧
      relay.outboundLane.sink.Used relay'.outboundLane.sink := by
    rcases outboundLane_of_turn h with he | ht | he
    · rw [he]
      exact ⟨.refl _, rfl⟩
    · exact ht.used
    · rw [he]
      exact ⟨.refl _, rfl⟩
  have hi : relay.inboundLane.source.Used relay'.inboundLane.source ∧
      relay.inboundLane.sink.Used relay'.inboundLane.sink := by
    rcases inboundLane_of_turn h with he | ht | he | ⟨source, error, hh, he⟩
    · rw [he]
      exact ⟨.refl _, rfl⟩
    · exact ht.used
    · rw [he]
      exact ⟨.refl _, rfl⟩
    · rw [he]
      exact ⟨hh.used, rfl⟩
  cases side with
  | near => exact ⟨ho.1, hi.2⟩
  | far => exact ⟨hi.1, ho.2⟩

lemma Outbound.Halt.at_end {room : Nat} {lane : Outbound.Lane} {error : Option IoError}
    (hh : Halt room lane error) (hs : lane.source.IsSteady) (hk : lane.sink.IsSteady) (hr : 0 < room) :
    error = none ∧ lane.doing = .reading ∧ lane.source.chunks = [] ∧
      lane.source.ending = some .closed := by
  cases hh with
  | ended hd he => exact ⟨rfl, hd, Source.ended_of_read hs.chunks hr he⟩
  | readFailed _ he => exact absurd he hs.ne_failed
  | writeFailed _ he => exact absurd he hk.ne_failed

lemma Inbound.Halt.at_end {capacity skipped : Nat} {lane : Inbound.Lane} {source : Source}
    {error : Option IoError} (hh : Halt capacity lane source error) (hs : lane.source.IsSteady)
    (hk : lane.sink.IsSteady) (hf : lane.Follows skipped arrived)
    (hc : ∀ header ∈ Record.headers arrived, header.length.toNat ≤ capacity) :
    error = none ∧ (∃ reader, lane.doing = .reading reader) ∧ source = lane.source ∧
      lane.source.chunks = [] ∧ lane.source.ending = some .closed := by
  cases hh with
  | @ended reader hd he => exact ⟨rfl, ⟨reader, hd⟩, rfl, Source.ended_of_read hs.chunks reader.missing_pos he⟩
  | readFailed _ he => exact absurd he hs.ne_failed
  | @tooLong reader piece source header hd hr hl =>
    obtain ⟨read, hb, _, hst, _⟩ := hf
    simp only [Inbound.Lane.Stands, hd] at hst
    obtain ⟨hm, hlt, _⟩ := hst.tooLong (Source.length_le_of_read hr) hl
    have hm := Record.mem_headers_append (b := source.bytes) hm
    rw [List.append_assoc, ← Source.bytes_of_read hr, hb] at hm
    exact absurd (hc header hm) (Nat.not_le_of_lt hlt)
  | writeFailed _ he => exact absurd he hk.ne_failed

lemma IsCalm.turn (h : relay.IsCalm) (ht : Turn capacities relay relay') (hn : 0 < capacities.nearRead)
    {skipped : Nat} (hf : relay.inboundLane.Follows skipped arrived)
    (hc : ∀ header ∈ Record.headers arrived, header.length.toNat ≤ capacities.farRecord) :
    relay'.IsCalm := by
  have hp := h.paired.turn ht
  have hnear := h.calm .near
  have hfar := h.calm .far
  have hcalm : ∀ side, (relay'.link.on side).IsCalm := by
    intro side
    obtain ⟨hs, hk⟩ := used_of_turn ht side
    exact ⟨hs.notMem (h.calm side).chunks, hs.ending.trans (h.calm side).ending,
      Sink.IsSteady.used (h.calm side).limit hk⟩
  cases ht with
  | heed hclosed _ =>
    rw [h.paired.open_iff.mpr h.live] at hclosed
    cases hclosed
  | outbound ht =>
    refine ⟨hp, ?_, hcalm⟩
    rw [← hp.open_iff]
    exact h.paired.open_iff.mpr h.live
  | inbound ht =>
    refine ⟨hp, ?_, hcalm⟩
    rw [← hp.open_iff]
    exact h.paired.open_iff.mpr h.live
  | haltOutbound hh =>
    have he := (hh.at_end hnear.steady hfar.limit hn).2.2.2
    rw [outboundLane] at he
    exact absurd (he.symm.trans hnear.ending) (Option.some_ne_none _)
  | haltInbound hh =>
    have he := (hh.at_end hfar.steady hnear.limit hf hc).2.2.2.2
    exact absurd (he.symm.trans hfar.ending) (Option.some_ne_none _)

lemma follows_of_run (h : Run capacities (start {}) events relay) :
    relay.outboundLane.Follows capacities.nearRead []
        ((events.flatMap (Link.Event.arrived .near)).flatMap (Bytes.cut capacities.nearRead)) ∧
      relay.inboundLane.Follows 0 (events.flatMap (Link.Event.arrived .far)).flatten := by
  induction h with
  | start =>
    refine ⟨⟨[], rfl, settled_nil⟩, [], rfl, Nat.zero_le _, ?_, ?_⟩
    · exact Record.Reader.standsAt_start.mpr (by rw [Record.split_nil])
    · rw [Record.payloads_nil]
      exact settled_nil
  | step move _ hs ih =>
    have ht := turn_of_step hs
    exact ⟨outbound_follows_of_turn ht ih.1, inbound_follows_of_turn ht ih.2⟩
  | notice event _ ih =>
    simp only [List.flatMap_append, List.flatten_append, List.flatMap_singleton]
    exact ⟨outbound_follows_of_notice event ih.1, inbound_follows_of_notice event ih.2⟩

lemma isCalm_of_run (h : Run capacities (start {}) events relay) (hn : 0 < capacities.nearRead)
    (he : ∀ event ∈ events, event.IsCalm)
    (hc : ∀ header ∈ Record.headers (events.flatMap (Link.Event.arrived .far)).flatten,
      header.length.toNat ≤ capacities.farRecord) : relay.IsCalm := by
  induction h with
  | start =>
    refine ⟨paired_start {}, (paired_start {}).open_iff.mp rfl, fun side => ?_⟩
    cases side <;> exact ⟨nofun, rfl, nofun⟩
  | step move hr hs ih => exact (ih he hc).turn (turn_of_step hs) hn (follows_of_run hr).2 hc
  | notice event _ ih =>
    have hi := ih (fun e hm => he e (List.mem_append_left _ hm)) fun header hm => hc header (by
      rw [List.flatMap_append, List.flatten_append]
      exact Record.mem_headers_append hm)
    exact ⟨hi.paired.notice event, hi.live,
      Link.isCalm_apply (he event (List.mem_append_right _ (List.mem_singleton_self _))) hi.calm⟩

lemma outbound_delivered {expected : List Bytes} (h : relay.BothLive)
    (hw : Waits capacities relay) (hf : relay.outboundLane.Follows capacities.nearRead [] expected) :
    relay.link.far.sink.IsStalled ∨ relay.link.far.sink.taken = expected.flatMap framed := by
  obtain ⟨units, he, ha⟩ := hf
  rcases outbound_waits (hw (.proceed .outbound)) with hd | ⟨hd, hr⟩ | ⟨left, size, hd, hs⟩
  · exact absurd hd (isLive_outbound_iff.mp (h .outbound))
  · right
    have hc := (Source.read_eq_waits hr).1
    simp only [Outbound.Lane.Accounts, outboundLane, hd] at ha
    simp only [Source.pieces, outboundLane, hc, List.flatMap_nil, List.append_nil] at he
    rw [← he]
    exact ha.taken_eq
  · exact Or.inl (Sink.write_eq_waits hs)

lemma inbound_delivered (h : relay.BothLive) (hw : Waits capacities relay)
    (hf : relay.inboundLane.Follows 0 arrived) :
    relay.link.near.sink.IsStalled ∨ relay.link.near.sink.taken = (Record.payloads arrived).flatten := by
  obtain ⟨read, hb, _, _, ha⟩ := hf
  rcases inbound_waits (hw (.proceed .inbound)) with hd | ⟨reader, hd, hr⟩ | ⟨left, size, hd, hs⟩
  · exact absurd hd (isLive_inbound_iff.mp (h .inbound))
  · right
    have hc := (Source.read_eq_waits hr).1
    simp only [Inbound.Lane.Accounts, inboundLane, hd] at ha
    simp only [Source.bytes, inboundLane, hc, List.flatten_nil, List.append_nil] at hb
    rw [← hb]
    simpa using ha.taken_eq
  · exact Or.inl (Sink.write_eq_waits hs)

/-- Where a relay of calm connections waits, each direction has brought across all that is there for
it, unless the side that it writes to is stalled. -/
theorem calm_delivery (h : Run capacities (start {}) events relay) (hn : 1 ≤ capacities.nearRead)
    (he : ∀ event ∈ events, event.IsCalm)
    (hc : ∀ header ∈ Record.headers (events.flatMap (Link.Event.arrived .far)).flatten,
      header.length.toNat ≤ capacities.farRecord)
    (hw : Waits capacities relay) :
    relay.BothLive ∧ (∀ side, (relay.link.on side).tenure = .held) ∧
      (relay.link.far.sink.IsStalled ∨
        relay.link.far.sink.taken =
          ((events.flatMap (Link.Event.arrived .near)).flatMap (Bytes.cut capacities.nearRead)).flatMap
            framed) ∧
      (relay.link.near.sink.IsStalled ∨
        relay.link.near.sink.taken =
          (Record.payloads (events.flatMap (Link.Event.arrived .far)).flatten).flatten) := by
  have hi := isCalm_of_run h hn he hc
  obtain ⟨ho, hf⟩ := follows_of_run h
  exact ⟨hi.live, hi.paired.held hi.live.not_isOver, outbound_delivered hi.live hw ho,
    inbound_delivered hi.live hw hf⟩

theorem outbound_delivered_past_stall :
    ∃ relay, Run ⟨2, 4⟩ (start {}) [.limit .near (some ⟨0, .stalls⟩), .arrive .near [[1, 2, 3]],
        .arrive .far [[0x17, 3, 3, 0], [1, 9, 0x17]]] relay ∧
      Waits ⟨2, 4⟩ relay ∧ relay.BothLive ∧ relay.link.near.sink.IsStalled ∧
      relay.link.far.sink.taken = [0x17, 3, 3, 0, 2, 1, 2, 0x17, 3, 3, 0, 1, 3] := by
  obtain ⟨relay, hr, hw, hn, hf⟩ : ∃ relay, Run ⟨2, 4⟩ (start {}) [.limit .near (some ⟨0, .stalls⟩),
      .arrive .near [[1, 2, 3]], .arrive .far [[0x17, 3, 3, 0], [1, 9, 0x17]]] relay ∧
      Waits ⟨2, 4⟩ relay ∧ relay.link.near.sink.limit = some ⟨0, .stalls⟩ ∧
      relay.link.far.sink.limit = none :=
    ⟨_, run_through _ _ _, settle_waits _ _, by cbv, by cbv⟩
  have hd := calm_delivery hr (by decide) (by simp [Link.Event.IsCalm]) (by decide +kernel) hw
  refine ⟨relay, hr, hw, hd.1, hn, (hd.2.2.1.resolve_left fun hs => ?_).trans (by cbv)⟩
  rw [Sink.IsStalled, hf] at hs
  cases hs

end Relay

end Camouflage

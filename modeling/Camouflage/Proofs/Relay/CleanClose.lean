import Camouflage.Proofs.Record.Accepted
import Camouflage.Proofs.Relay.BackToBack

namespace Camouflage

structure Link.Ends (side : Side) (events : List Link.Event) : Prop where
  chunks : ∀ event ∈ events, [] ∉ event.arrived side
  ending : ∀ ending, .finish side ending ∈ events → ending = .closed
  silent : Silent side events

lemma Link.Ends.init {side : Side} {events : List Event} {event : Event}
    (h : Ends side (events ++ [event])) : Ends side events where
  chunks other hm := h.chunks other (List.mem_append_left _ hm)
  ending ending hm := h.ending ending (List.mem_append_left _ hm)
  silent := h.silent.init

lemma Link.Closing.ends {side : Side} {events : List Event} (h : Closing side events) :
    Ends side events where
  chunks event hm := by
    cases event with
    | arrive other chunks =>
      have hc : [] ∉ chunks := (h.calm _ hm).resolve_right (by rintro ⟨⟩)
      simp only [Event.arrived]
      split
      · exact hc
      · exact List.not_mem_nil
    | _ => exact List.not_mem_nil
  ending ending hm := by
    cases (h.calm _ hm).resolve_left id
    rfl
  silent := h.behind

namespace Relay

/-- A direction may be stopped by what it reads, where it is the closing one, and by nothing else. So all
writes go through, and the other direction's reads neither end nor fail nor find a record too long. -/
def Undisturbed (capacities : Capacities) (closing : Direction) (relay : Relay) : Move → Prop
  | .heed _ => True
  | .proceed .outbound => ∀ error, Outbound.Halt capacities.nearRead relay.outboundLane error →
    closing = .outbound ∧ relay.flow.outbound = .reading
  | .proceed .inbound => ∀ source error,
    Inbound.Halt capacities.farRecord relay.inboundLane source error →
      closing = .inbound ∧ ∃ reader, relay.flow.inbound = .reading reader

inductive CleanRun (capacities : Capacities) (closing : Direction) : List Link.Event → Relay → Prop
  | start : CleanRun capacities closing [] (Relay.start {})
  | step {events : List Link.Event} {relay relay' : Relay} (move : Move) :
      CleanRun capacities closing events relay → relay.Undisturbed capacities closing move →
        step capacities relay move = some relay' → CleanRun capacities closing events relay'
  | notice {events : List Link.Event} {relay : Relay} (event : Link.Event) :
      CleanRun capacities closing events relay →
        CleanRun capacities closing (events ++ [event]) (relay.notice event)

variable {capacities : Capacities} {relay relay' : Relay} {events : List Link.Event}
  {event : Link.Event} {closing : Direction}

lemma CleanRun.run (h : CleanRun capacities closing events relay) :
    Run capacities (Relay.start {}) events relay := by
  induction h with
  | start => exact .start
  | step move _ _ hs ih => exact .step move ih hs
  | notice event _ ih => exact .notice event ih

lemma source_of_run {side : Side} (h : Run capacities (start {}) events relay)
    (he : Link.Ends side events) :
    (relay.link.on side).source.IsSteady ∧
      ((relay.link.on side).source.ending ≠ none ↔ .finish side .closed ∈ events) := by
  induction h with
  | start =>
    refine ⟨⟨?_, ?_⟩, ?_⟩
    · cases side <;> exact List.not_mem_nil
    · cases side <;> rintro _ ⟨⟩
    · cases side <;> simp [start, Link.on, Connection.hold]
  | step move _ hs ih =>
    obtain ⟨hsteady, hiff⟩ := ih he
    have hu := (used_of_turn (turn_of_step hs) side).1
    refine ⟨⟨hu.notMem hsteady.chunks, ?_⟩, ?_⟩
    · rw [hu.ending]
      exact hsteady.ending
    · rw [hu.ending]
      exact hiff
  | @notice events relay event _ ih =>
    obtain ⟨hsteady, hiff⟩ := ih he.init
    have hlast : event ∈ events ++ [event] := List.mem_append_right _ List.mem_cons_self
    have hchunks : [] ∉ ((relay.notice event).link.on side).source.chunks := by
      change [] ∉ ((relay.link.apply event).on side).source.chunks
      rw [Link.chunks_apply, List.mem_append, not_or]
      exact ⟨hsteady.chunks, he.chunks event hlast⟩
    rcases Link.ending_apply event relay.link side with ⟨ending, rfl, hl⟩ | ⟨hne, hl⟩
    · obtain rfl := he.ending ending hlast
      refine ⟨⟨hchunks, fun other hm => ?_⟩, iff_of_true ?_ hlast⟩
      · exact Option.some.inj ((Option.mem_def.mp hm).symm.trans hl)
      · exact fun hn => Option.some_ne_none _ (hl.symm.trans hn)
    · refine ⟨⟨hchunks, fun other hm => hsteady.ending other (hl ▸ hm)⟩, ?_⟩
      change ((relay.link.apply event).on side).source.ending ≠ none ↔ _
      rw [hl, hiff, List.mem_append, List.mem_singleton]
      exact ⟨Or.inl, fun hm => hm.resolve_right fun h => hne _ h.symm⟩

structure Inbound.Lane.Fits (capacity : Nat) (arrived : Bytes) (lane : Inbound.Lane) : Prop where
  payloads : ∀ read, read ++ lane.source.bytes = arrived →
    ∀ payload ∈ Record.payloads read, payload.length ≤ capacity
  reader : ∀ reader, lane.doing = .reading reader → reader.Fits capacity

section

variable {capacity : Nat} {arrived : Bytes} {lane lane' : Inbound.Lane}

open Inbound.Lane

lemma Inbound.Lane.Fits.turn (h : lane.Fits capacity arrived) (hf : lane.Follows 0 arrived)
    (ht : Turn capacity lane lane') : lane'.Fits capacity arrived := by
  obtain ⟨read, hb, -, hst, -⟩ := hf
  have hfit := h.payloads read hb
  -- what has been read after a turn that reads a piece
  have hread : ∀ {piece : Bytes} {source : Source} {room : Nat} {read' : Bytes},
      lane.source.read room = .got piece source → read' ++ source.bytes = arrived →
        read' = read ++ piece := by
    intro piece source room read' hr hb'
    rw [Source.bytes_of_read hr, ← List.append_assoc, ← hb'] at hb
    exact (List.append_cancel_right hb).symm
  cases ht with
  | read hd hr hfeed =>
    have hp := Source.length_le_of_read hr
    simp only [Stands, hd] at hst
    refine ⟨fun read' hb' => ?_, ?_⟩
    · rw [hread hr hb', (hst.incomplete hp hfeed).2]
      exact hfit
    · rintro _ ⟨⟩
      exact (h.reader _ hd).incomplete hp hfeed
  | skip hd hr hfeed =>
    have hp := Source.length_le_of_read hr
    simp only [Stands, hd] at hst
    refine ⟨fun read' hb' => ?_, ?_⟩
    · rw [hread hr hb', (hst.complete hp hfeed).2, List.forall_mem_append]
      exact ⟨hfit, List.forall_mem_singleton.mpr ((h.reader _ hd).complete hp hfeed)⟩
    · rintro _ ⟨⟩
      trivial
  | unwrap hd hr hfeed _ =>
    have hp := Source.length_le_of_read hr
    simp only [Stands, hd] at hst
    refine ⟨fun read' hb' => ?_, by rintro _ ⟨⟩⟩
    rw [hread hr hb', (hst.complete hp hfeed).2, List.forall_mem_append]
    exact ⟨hfit, List.forall_mem_singleton.mpr ((h.reader _ hd).complete hp hfeed)⟩
  | write _ _ _ => exact ⟨h.payloads, by rintro _ ⟨⟩⟩
  | complete _ _ =>
    refine ⟨h.payloads, ?_⟩
    rintro _ ⟨⟩
    trivial

end

/-- The inbound direction has come to its end and brought across all that is accepted of what arrived,
and would be if more arrived. -/
def Inbound.Lane.Exhausted (capacity : Nat) (arrived : Bytes) (isLast : Prop) (lane : Inbound.Lane) :
    Prop :=
  lane.doing = .ended ∧ ∃ units, Settled id [] units lane.sink.taken lane.received ∧
    Record.accepted capacity arrived = units ∧
      (isLast ∨ ∀ more, Record.accepted capacity (arrived ++ more) = units)

def Brought (capacities : Capacities) (events : List Link.Event) (relay : Relay) : Direction → Prop
  | .outbound => .finish .near .closed ∈ events ∧
    relay.outboundLane.Completed (pieces capacities events)
  | .inbound => relay.inboundLane.Exhausted capacities.farRecord
    (events.flatMap (Link.Event.arrived .far)).flatten (.finish .far .closed ∈ events)

lemma Brought.turn (h : relay.Brought capacities events closing) (ht : Turn capacities relay relay') :
    relay'.Brought capacities events closing := by
  cases closing with
  | outbound =>
    rw [Brought, outboundLane_of_ended ht h.2.1]
    exact h
  | inbound =>
    rw [Brought, inboundLane_of_ended ht h.1]
    exact h

lemma Brought.notice (h : relay.Brought capacities events closing)
    (he : Link.Ends closing.reads (events ++ [event])) :
    (relay.notice event).Brought capacities (events ++ [event]) closing := by
  cases closing with
  | outbound =>
    have hc : relay.Completed capacities events .outbound := h.2
    exact ⟨List.mem_append_left _ h.1, hc.notice (he.silent.arrived_last h.1)⟩
  | inbound =>
    obtain ⟨hd, units, hs, ha, hlast⟩ := h
    have htaken : (relay.notice event).link.near.sink.taken = relay.link.near.sink.taken :=
      congrArg (fun pieces => pieces.reverse.flatten) (Link.kept_apply event relay.link .near).1
    refine ⟨hd, units, ?_, ?_⟩
    · change Settled id [] _ (relay.notice event).link.near.sink.taken relay.flow.received
      rw [htaken]
      exact hs
    · rw [List.flatMap_append, List.flatten_append, List.flatMap_singleton]
      rcases hlast with hm | hmore
      · have hnone : event.arrived .far = [] := he.silent.arrived_last hm
        rw [hnone, List.flatten_nil, List.append_nil]
        exact ⟨ha, Or.inl (List.mem_append_left _ hm)⟩
      · refine ⟨hmore _, Or.inr fun more => ?_⟩
        rw [List.append_assoc]
        exact hmore _

lemma Inbound.Lane.Follows.exhausted {capacity : Nat} {arrived : Bytes} {lane : Inbound.Lane}
    {source : Source} {error : Option IoError} {isLast : Prop} {reader : Record.Reader}
    (hf : lane.Follows 0 arrived) (h : lane.Fits capacity arrived) (hs : lane.source.IsSteady)
    (hlast : lane.source.ending ≠ none → isLast) (hh : Halt capacity lane source error)
    (hd : lane.doing = .reading reader) :
    Exhausted capacity arrived isLast { lane with source, doing := .ended } := by
  obtain ⟨read, hb, -, hst, ha⟩ := hf
  have hfit := h.payloads read hb
  simp only [Accounts, hd, List.drop_zero] at ha
  refine ⟨rfl, Record.payloads read, ha, ?_⟩
  cases hh with
  | @ended reader' hd' he =>
    obtain ⟨hc, he⟩ := Source.ended_of_read hs.chunks reader'.missing_pos he
    rw [Source.bytes, hc, List.flatten_nil, List.append_nil] at hb
    rw [← hb]
    exact ⟨Record.accepted_eq_payloads hfit, Or.inl (hlast (ne_of_eq_of_ne he (Option.some_ne_none _)))⟩
  | readFailed _ he => exact absurd he hs.ne_failed
  | @tooLong reader' piece _ header hd' hr hfeed =>
    -- where a record does not fit, nothing behind it is accepted, whatever else arrives
    simp only [Stands, hd'] at hst
    rw [Source.bytes_of_read hr, ← List.append_assoc] at hb
    have hmore := hst.accepted_tooLong (Source.length_le_of_read hr) hfeed hfit
    rw [← hb]
    refine ⟨hmore _, Or.inr fun more => ?_⟩
    rw [List.append_assoc]
    exact hmore _
  | writeFailed hd' _ => cases hd.symm.trans hd'

lemma Inbound.Lane.Fits.queue {capacity : Nat} {arrived : Bytes} {lane : Inbound.Lane}
    {source : Source} {sink : Sink} {chunks : List Bytes} (h : lane.Fits capacity arrived)
    (hc : source.chunks = lane.source.chunks ++ chunks) :
    Fits capacity (arrived ++ chunks.flatten) { lane with source, sink } where
  payloads read hb := by
    apply h.payloads read
    rw [Source.bytes, hc, List.flatten_append, ← List.append_assoc] at hb
    exact List.append_cancel_right hb
  reader := h.reader

lemma brought_of_run (h : CleanRun capacities closing events relay) (hn : 0 < capacities.nearRead)
    (he : Link.Ends closing.reads events) :
    relay.BothLive ∧ relay.inboundLane.Fits capacities.farRecord
        (events.flatMap (Link.Event.arrived .far)).flatten ∨
      relay.Brought capacities events closing := by
  induction h with
  | start =>
    refine Or.inl ⟨(paired_start {}).open_iff.mp rfl, ?_, ?_⟩
    · intro read hb
      obtain rfl := (List.append_eq_nil_iff.mp hb).1
      rw [Record.payloads_nil]
      exact List.forall_mem_nil _
    · rintro _ ⟨⟩
      trivial
  | step move hr hu hs ih =>
    rcases ih he with ⟨hl, hfits⟩ | hd
    swap
    · exact Or.inr (hd.turn (turn_of_step hs))
    -- as long as both directions are live, only the closing one can be stopped, and by its own reads
    have hp := paired_of_run hr.run (paired_start {})
    have hopen := hp.open_iff.mpr hl
    have hp' := hp.turn (turn_of_step hs)
    obtain ⟨ho, hi⟩ := follows_of_run hr.run
    obtain ⟨hsteady, hending⟩ := source_of_run hr.run he
    cases move with
    | heed direction =>
      simp only [step, hopen, Bool.false_and] at hs
      cases hs
    | proceed direction =>
      cases direction with
      | outbound =>
        rcases of_proceedOutbound hs with ⟨lane, ht, rfl⟩ | ⟨error, hh, rfl⟩
        · exact Or.inl ⟨hp'.open_iff.mp hopen, hfits⟩
        · obtain ⟨rfl, hd⟩ := hu error hh
          refine Or.inr ?_
          cases hh with
          | ended _ hend =>
            obtain ⟨hc, hclosed⟩ := Source.ended_of_read hsteady.chunks hn hend
            refine ⟨hending.mp (ne_of_eq_of_ne hclosed (Option.some_ne_none _)), ?_⟩
            rw [outboundLane_stop]
            exact ho.completed hd hc
          | readFailed _ hf => exact absurd hf hsteady.ne_failed
          | writeFailed hd' _ => cases hd.symm.trans hd'
      | inbound =>
        rcases of_proceedInbound hs with ⟨lane, ht, rfl⟩ | ⟨source, error, hh, rfl⟩
        · exact Or.inl ⟨hp'.open_iff.mp hopen, hfits.turn hi ht⟩
        · obtain ⟨rfl, reader, hd⟩ := hu source error hh
          refine Or.inr ?_
          rw [Brought, inboundLane_stop]
          exact hi.exhausted hfits hsteady hending.mp hh hd
  | @notice events relay event hr ih =>
    rcases ih he.init with ⟨hl, hfits⟩ | hd
    · refine Or.inl ⟨hl, ?_⟩
      rw [List.flatMap_append, List.flatten_append, List.flatMap_singleton]
      exact hfits.queue (Link.chunks_apply event relay.link .far)
    · exact Or.inr (hd.notice he)

def IsHeldUp (relay : Relay) : Direction → Prop
  | .outbound => ∃ left size, relay.flow.outbound = .writing left size ∧
    relay.link.far.sink.write left = .waits
  | .inbound => ∃ left size, relay.flow.inbound = .writing left size ∧
    relay.link.near.sink.write left = .waits

lemma brought_of_waits (h : CleanRun capacities closing events relay) (hn : 0 < capacities.nearRead)
    (he : Link.Ends closing.reads events) (hm : .finish closing.reads .closed ∈ events)
    (hw : Waits capacities relay) (hs : ¬ relay.IsHeldUp closing) :
    relay.Brought capacities events closing := by
  rcases brought_of_run h hn he with ⟨hl, -⟩ | hd
  swap
  · exact hd
  exfalso
  have hending := (source_of_run h.run he).2.mpr hm
  cases closing with
  | outbound =>
    rcases outbound_waits (hw (.proceed .outbound)) with hd | ⟨_, hr⟩ | hheld
    · exact isLive_outbound_iff.mp (hl .outbound) hd
    · exact hending (Source.read_eq_waits hr).2
    · exact hs hheld
  | inbound =>
    rcases inbound_waits (hw (.proceed .inbound)) with hd | ⟨_, _, hr⟩ | hheld
    · exact isLive_inbound_iff.mp (hl .inbound) hd
    · exact hending (Source.read_eq_waits hr).2
    · exact hs hheld

structure HasSent (bytes : Bytes) (relay : Relay) : Prop where
  whole : (Record.split relay.link.far.sink.taken).2 = []
  payloads : (Record.payloads relay.link.far.sink.taken).flatten = bytes
  sent : relay.flow.sent = bytes.length

structure HasReceived (bytes : Bytes) (relay : Relay) : Prop where
  taken : relay.link.near.sink.taken = bytes
  received : relay.flow.received = bytes.length

lemma Brought.hasSent (h : relay.Brought capacities events .outbound) :
    relay.HasSent (events.flatMap (Link.Event.arrived .near)).flatten := by
  obtain ⟨-, -, -, hs⟩ := h
  have ht : relay.link.far.sink.taken = (pieces capacities events).flatMap framed := hs.taken_eq
  refine ⟨?_, ?_, ?_⟩
  · rw [ht]
    exact congrArg Prod.snd (Record.split_frames .applicationData .tls12 _)
  · rw [ht, flatten_payloads_framed, flatten_pieces]
  · rw [← flatten_pieces capacities events]
    exact hs.count_eq

lemma Brought.hasReceived (h : relay.Brought capacities events .inbound) :
    relay.HasReceived (Record.accepted capacities.farRecord
      (events.flatMap (Link.Event.arrived .far)).flatten).flatten := by
  obtain ⟨-, units, hs, rfl, -⟩ := h
  have ht := hs.taken_eq
  rw [List.nil_append, List.flatMap_id] at ht
  exact ⟨ht, hs.count_eq⟩

lemma Brought.not_bothLive (h : relay.Brought capacities events closing) : ¬ relay.BothLive := by
  intro hl
  cases closing with
  | outbound => exact isLive_outbound_iff.mp (hl .outbound) h.2.1
  | inbound => exact isLive_inbound_iff.mp (hl .inbound) h.1

/-- Where one side has ended and nothing else went wrong, the turns come to an end, and unless the
direction that reads from it is held up in a write both directions are over. Then the far side has taken
all that the near one sent, if that was the one to end; and the near side has taken the payloads of all
complete records, if it was the far one, up to the first that does not fit. -/
theorem clean_close (h : CleanRun capacities closing events relay) (hn : 1 ≤ capacities.nearRead)
    (he : Link.Ends closing.reads events) (hm : .finish closing.reads .closed ∈ events) :
    Acc (fun after before => ∃ move, step capacities before move = some after) relay ∧
    (Waits capacities relay → ¬ relay.IsHeldUp closing → relay.IsDown ∧
      (closing = .outbound → relay.HasSent (events.flatMap (Link.Event.arrived .near)).flatten) ∧
      (closing = .inbound →
        relay.HasReceived (Record.accepted capacities.farRecord
          (events.flatMap (Link.Event.arrived .far)).flatten).flatten ∧
        ((∀ payload ∈ Record.payloads (events.flatMap (Link.Event.arrived .far)).flatten,
            payload.length ≤ capacities.farRecord) →
          relay.HasReceived
            (Record.payloads (events.flatMap (Link.Event.arrived .far)).flatten).flatten))) := by
  refine ⟨acc_step capacities relay, fun hw hs => ?_⟩
  have hb := brought_of_waits h hn he hm hw hs
  have hp := paired_of_run h.run (paired_start {})
  refine ⟨(hp.of_waits hw).resolve_left hb.not_bothLive, ?_, ?_⟩
  · rintro rfl
    exact hb.hasSent
  · rintro rfl
    refine ⟨hb.hasReceived, fun hfit => ?_⟩
    rw [← Record.accepted_eq_payloads hfit]
    exact hb.hasReceived

lemma CleanRun.of_closing (h : Run capacities (Relay.start {}) events relay)
    (hn : 0 < capacities.nearRead) (hc : Link.Closing closing.reads events)
    (hfits : ∀ header ∈ Record.headers (events.flatMap (Link.Event.arrived .far)).flatten,
      header.length.toNat ≤ capacities.farRecord) : CleanRun capacities closing events relay := by
  induction h with
  | start => exact .start
  | @step events relay _ move hr hs ih =>
    refine .step move (ih hc hfits) ?_ hs
    have hsteady := isSteady_of_run hr hc
    have hside : ∀ side, (relay.link.on side).source.ending = some .closed → side = closing.reads :=
      fun side he => (hsteady.ending side (ne_of_eq_of_ne he (Option.some_ne_none _))).1
    cases move with
    | heed direction => trivial
    | proceed direction =>
      cases direction with
      | outbound =>
        intro error hh
        obtain ⟨-, hd, -, he⟩ := hh.at_end (hsteady.source .near) (hsteady.sink .far) hn
        have hreads := hside .near he
        cases closing with
        | outbound => exact ⟨rfl, hd⟩
        | inbound => cases hreads
      | inbound =>
        intro source error hh
        obtain ⟨-, hd, -, -, he⟩ :=
          hh.at_end (hsteady.source .far) (hsteady.sink .near) (follows_of_run hr).2 hfits
        have hreads := hside .far he
        cases closing with
        | outbound => cases hreads
        | inbound => exact ⟨rfl, hd⟩
  | notice event _ ih =>
    refine .notice event (ih hc.init fun header hm => hfits header ?_)
    rw [List.flatMap_append, List.flatten_append]
    exact Record.mem_headers_append hm

theorem sent_past_stall : ∃ relay, Run ⟨2, 4⟩ (start {})
      [.limit .near (some ⟨1, .stalls⟩), .arrive .near [[1, 2, 3], [4]],
        .arrive .far [[0x17, 3, 3, 0], [2, 8, 9]], .finish .near .closed] relay ∧
    relay.IsDown ∧ relay.HasSent [1, 2, 3, 4] := by
  obtain ⟨relay, hr, hw, hl⟩ : ∃ relay, Run ⟨2, 4⟩ (start {})
      [.limit .near (some ⟨1, .stalls⟩), .arrive .near [[1, 2, 3], [4]],
        .arrive .far [[0x17, 3, 3, 0], [2, 8, 9]], .finish .near .closed] relay ∧
      Waits ⟨2, 4⟩ relay ∧ relay.flow.outbound = .ended :=
    ⟨_, run_through _ _ _, settle_waits _ _, by cbv⟩
  have hcalm : ∀ event ∈ [.limit .near (some ⟨1, .stalls⟩), .arrive .near [[1, 2, 3], [4]],
      .arrive .far [[0x17, 3, 3, 0], [2, 8, 9]]], Link.Event.IsCalm event := by
    simp [Link.Event.IsCalm]
  have hc : Link.Closing Direction.outbound.reads _ := .finish hcalm
  have hclean := CleanRun.of_closing hr (by decide) hc (by decide +kernel)
  have hfree : ¬ relay.IsHeldUp .outbound := by
    rintro ⟨left, size, hd, -⟩
    cases hl.symm.trans hd
  obtain ⟨hdown, hsent, -⟩ := (clean_close hclean (by decide) hc.ends (by simp [Direction.reads])).2 hw
    hfree
  exact ⟨relay, hr, hdown, hsent rfl⟩

end Relay

end Camouflage

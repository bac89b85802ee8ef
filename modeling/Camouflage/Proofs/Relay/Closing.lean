import Camouflage.Proofs.Relay.Delivery

/-! A relay of which one side comes to its end: the direction that reads there brings all across before
it stops, and only then the other one heeds. -/

namespace Camouflage

def Direction.reads : Direction → Side
  | .outbound => .near
  | .inbound => .far

def Link.Silent (side : Side) (events : List Link.Event) : Prop :=
  ∀ before after, events = before ++ .finish side .closed :: after →
    ∀ event ∈ after, event.arrived side = []

namespace Link.Silent

variable {side : Side} {events : List Link.Event} {event : Link.Event}

lemma init (h : Silent side (events ++ [event])) : Silent side events := by
  intro before after he other hm
  apply h before (after ++ [event])
  · rw [he, List.append_assoc, List.cons_append]
  · exact List.mem_append_left _ hm

lemma arrived_last (h : Silent side (events ++ [event])) (hm : .finish side .closed ∈ events) :
    event.arrived side = [] := by
  obtain ⟨before, after, rfl⟩ := List.append_of_mem hm
  apply h before (after ++ [event])
  · rw [List.append_assoc, List.cons_append]
  · exact List.mem_append_right _ List.mem_cons_self

end Link.Silent

structure Link.Closing (side : Side) (events : List Link.Event) : Prop where
  calm : ∀ event ∈ events, event.IsCalm ∨ event = .finish side .closed
  behind : ∀ before after, events = before ++ .finish side .closed :: after →
    ∀ event ∈ after, event.arrived side = []

namespace Link.Closing

variable {side : Side} {events : List Link.Event} {event : Link.Event}

lemma init (h : Closing side (events ++ [event])) : Closing side events where
  calm event hm := h.calm event (List.mem_append_left _ hm)
  behind := Silent.init h.behind

lemma arrived_last (h : Closing side (events ++ [event])) (hm : .finish side .closed ∈ events) :
    event.arrived side = [] :=
  Silent.arrived_last h.behind hm

lemma finish (h : ∀ event ∈ events, event.IsCalm) :
    Closing side (events ++ [.finish side .closed]) where
  calm event hm := by
    rcases List.mem_append.mp hm with hm | hm
    · exact Or.inl (h event hm)
    · exact Or.inr (List.mem_singleton.mp hm)
  behind before after he event hm := by
    rcases List.eq_nil_or_concat after with rfl | ⟨init, last, rfl⟩
    · cases hm
    · rw [List.concat_eq_append, ← List.cons_append, ← List.append_assoc] at he
      have hi := (List.append_inj_left' he rfl).symm
      have hf : Event.finish side .closed ∈ events := by
        rw [← hi]
        exact List.mem_append_right _ List.mem_cons_self
      exact (h _ hf).elim

end Link.Closing

namespace Relay

variable {capacities : Capacities} {relay relay' : Relay} {events : List Link.Event}
  {event : Link.Event} {closing : Direction}

structure IsSteady (side : Side) (events : List Link.Event) (relay : Relay) : Prop where
  source : ∀ other, (relay.link.on other).source.IsSteady
  sink : ∀ other, (relay.link.on other).sink.IsSteady
  ending : ∀ other, (relay.link.on other).source.ending ≠ none →
    other = side ∧ .finish side .closed ∈ events

lemma IsSteady.turn {side : Side} (h : relay.IsSteady side events)
    (ht : Turn capacities relay relay') : relay'.IsSteady side events where
  source other := by
    have hu := (used_of_turn ht other).1
    refine ⟨hu.notMem (h.source other).chunks, ?_⟩
    rw [hu.ending]
    exact (h.source other).ending
  sink other := (h.sink other).used (used_of_turn ht other).2
  ending other he := by
    rw [(used_of_turn ht other).1.ending] at he
    exact h.ending other he

lemma IsSteady.notice {side : Side} (h : relay.IsSteady side events)
    (he : event.IsCalm ∨ event = .finish side .closed) :
    (relay.notice event).IsSteady side (events ++ [event]) where
  source other := by
    have hs := h.source other
    refine ⟨?_, ?_⟩
    · change [] ∉ ((relay.link.apply event).on other).source.chunks
      rw [Link.chunks_apply, List.mem_append, not_or]
      refine ⟨hs.chunks, ?_⟩
      cases event with
      | arrive third chunks =>
        have hc : [] ∉ chunks := he.resolve_right (by rintro ⟨⟩)
        simp only [Link.Event.arrived]
        split
        · exact hc
        · exact List.not_mem_nil
      | _ => exact List.not_mem_nil
    · intro ending hm
      rcases Link.ending_apply event relay.link other with ⟨last, rfl, hl⟩ | ⟨_, hl⟩
      · cases he.resolve_left id
        exact Option.some.inj ((Option.mem_def.mp hm).symm.trans hl)
      · exact hs.ending ending (hl ▸ hm)
  sink other := by
    intro l hm
    rcases Link.limit_apply event relay.link other with ⟨limit, rfl, hl⟩ | hl
    · have hc : ∀ l ∈ limit, l.refusal = .stalls := he.resolve_right (by rintro ⟨⟩)
      exact hc l (hl ▸ hm)
    · exact h.sink other l (hl ▸ hm)
  ending other hne := by
    rcases Link.ending_apply event relay.link other with ⟨last, rfl, _⟩ | ⟨_, hl⟩
    · cases he.resolve_left id
      exact ⟨rfl, List.mem_append_right _ List.mem_cons_self⟩
    · obtain ⟨hs, hm⟩ := h.ending other (hl ▸ hne)
      exact ⟨hs, List.mem_append_left _ hm⟩

lemma isSteady_of_run {side : Side} (h : Run capacities (start {}) events relay)
    (hc : Link.Closing side events) : relay.IsSteady side events := by
  induction h with
  | start =>
    refine ⟨fun other => ?_, fun other => ?_, fun other hne => absurd ?_ hne⟩
    · cases other <;> exact ⟨nofun, nofun⟩
    · cases other <;> exact nofun
    · cases other <;> rfl
  | step move _ hs ih => exact (ih hc).turn (turn_of_step hs)
  | notice event _ ih =>
    exact (ih hc.init).notice (hc.calm event (List.mem_append_right _ List.mem_cons_self))

section

variable {room capacity : Nat} {units expected : List Bytes} {arrived : Bytes}

def Outbound.Lane.Completed (units : List Bytes) (lane : Outbound.Lane) : Prop :=
  lane.doing = .ended ∧ lane.source.chunks = [] ∧
    Settled framed [] units lane.sink.taken lane.sent

def Inbound.Lane.Completed (units : List Bytes) (lane : Inbound.Lane) : Prop :=
  lane.doing = .ended ∧ lane.source.chunks = [] ∧
    Settled id [] units lane.sink.taken lane.received

lemma Outbound.Lane.Follows.completed {lane : Outbound.Lane} (h : lane.Follows room [] expected)
    (hd : lane.doing = .reading) (hc : lane.source.chunks = []) :
    Outbound.Lane.Completed expected { lane with doing := .ended } := by
  obtain ⟨units, he, ha⟩ := h
  simp only [Source.pieces, hc, List.flatMap_nil, List.append_nil] at he
  simp only [Outbound.Lane.Accounts, hd] at ha
  rw [← he]
  exact ⟨rfl, hc, ha⟩

lemma Inbound.Lane.Follows.completed {lane : Inbound.Lane} (h : lane.Follows 0 arrived)
    {reader : Record.Reader} (hd : lane.doing = .reading reader) (hc : lane.source.chunks = []) :
    Inbound.Lane.Completed (Record.payloads arrived) { lane with doing := .ended } := by
  obtain ⟨read, hb, _, _, ha⟩ := h
  simp only [Source.bytes, hc, List.flatten_nil, List.append_nil] at hb
  simp only [Inbound.Lane.Accounts, hd, List.drop_zero] at ha
  rw [← hb]
  exact ⟨rfl, hc, ha⟩

end

def Completed (capacities : Capacities) (events : List Link.Event) (relay : Relay) :
    Direction → Prop
  | .outbound => relay.outboundLane.Completed
    ((events.flatMap (Link.Event.arrived .near)).flatMap (Bytes.cut capacities.nearRead))
  | .inbound => relay.inboundLane.Completed
    (Record.payloads (events.flatMap (Link.Event.arrived .far)).flatten)

lemma Completed.turn (h : relay.Completed capacities events closing)
    (ht : Turn capacities relay relay') : relay'.Completed capacities events closing := by
  cases closing with
  | outbound =>
    rw [Completed, outboundLane_of_ended ht h.1]
    exact h
  | inbound =>
    rw [Completed, inboundLane_of_ended ht h.1]
    exact h

lemma Completed.notice (h : relay.Completed capacities events closing)
    (he : event.arrived closing.reads = []) :
    (relay.notice event).Completed capacities (events ++ [event]) closing := by
  cases closing with
  | outbound =>
    obtain ⟨hd, hc, hs⟩ := h
    have hchunks := Link.chunks_apply event relay.link .near
    have htaken : (relay.notice event).link.far.sink.taken = relay.link.far.sink.taken :=
      congrArg (fun pieces => pieces.reverse.flatten) (Link.kept_apply event relay.link .far).1
    simp only [Direction.reads] at he
    refine ⟨hd, ?_, ?_⟩
    · exact hchunks.trans (List.append_eq_nil_iff.mpr ⟨hc, he⟩)
    · simp only [List.flatMap_append, List.flatMap_singleton, he, List.append_nil]
      change Settled framed [] _ (relay.notice event).link.far.sink.taken relay.flow.sent
      rw [htaken]
      exact hs
  | inbound =>
    obtain ⟨hd, hc, hs⟩ := h
    have hchunks := Link.chunks_apply event relay.link .far
    have htaken : (relay.notice event).link.near.sink.taken = relay.link.near.sink.taken :=
      congrArg (fun pieces => pieces.reverse.flatten) (Link.kept_apply event relay.link .near).1
    simp only [Direction.reads] at he
    refine ⟨hd, ?_, ?_⟩
    · exact hchunks.trans (List.append_eq_nil_iff.mpr ⟨hc, he⟩)
    · simp only [List.flatMap_append, List.flatMap_singleton, he, List.append_nil]
      change Settled id [] _ (relay.notice event).link.near.sink.taken relay.flow.received
      rw [htaken]
      exact hs

/-- No direction stops for an error, and none before the closing one has completed. -/
structure Closes (capacities : Capacities) (events : List Link.Event) (closing : Direction)
    (relay : Relay) : Prop where
  stops : ∀ stop ∈ relay.flow.stops, stop.error = none
  completed : relay.BothLive ∨ .finish closing.reads .closed ∈ events ∧
    relay.Completed capacities events closing

lemma stops_stop (relay : Relay) (direction : Direction) (error : Option IoError) :
    (relay.stop direction error).flow.stops = relay.flow.stops ++ [⟨direction, error⟩] := by
  rw [flow_stop]
  cases direction <;> rfl

section

variable (hn : 0 < capacities.nearRead)
  (hfits : ∀ header ∈ Record.headers (events.flatMap (Link.Event.arrived .far)).flatten,
    header.length.toNat ≤ capacities.farRecord)

include hn hfits

lemma stops_of_turn (hr : Run capacities (start {}) events relay)
    (hs : relay.IsSteady closing.reads events) (ht : Turn capacities relay relay')
    (h : ∀ stop ∈ relay.flow.stops, stop.error = none) :
    ∀ stop ∈ relay'.flow.stops, stop.error = none := by
  have hadd : ∀ direction, ∀ stop ∈ relay.flow.stops ++ [(⟨direction, none⟩ : Stop)],
      stop.error = none := by
    intro direction stop hm
    rcases List.mem_append.mp hm with hm | hm
    · exact h stop hm
    · rw [List.mem_singleton.mp hm]
  cases ht with
  | heed _ _ =>
    rw [stops_stop]
    exact hadd _
  | outbound _ => exact h
  | inbound _ => exact h
  | haltOutbound hh =>
    rw [(hh.at_end (hs.source .near) (hs.sink .far) hn).1, stops_stop]
    exact hadd _
  | haltInbound hh =>
    have hi := (follows_of_run hr).2
    rw [(hh.at_end (hs.source .far) (hs.sink .near) hi hfits).1, stops_stop]
    exact hadd _

lemma completed_of_turn (hr : Run capacities (start {}) events relay)
    (hs : relay.IsSteady closing.reads events) (hl : relay.BothLive)
    (ht : Turn capacities relay relay') :
    relay'.BothLive ∨ .finish closing.reads .closed ∈ events ∧
      relay'.Completed capacities events closing := by
  have hp := paired_of_run hr (paired_start {})
  have hp' := hp.turn ht
  have hopen := hp.open_iff.mpr hl
  obtain ⟨ho, hi⟩ := follows_of_run hr
  cases ht with
  | heed hclosed _ =>
    rw [hopen] at hclosed
    cases hclosed
  | outbound _ => exact Or.inl (hp'.open_iff.mp hopen)
  | inbound _ => exact Or.inl (hp'.open_iff.mp hopen)
  | haltOutbound hh =>
    obtain ⟨_, hd, hc, he⟩ := hh.at_end (hs.source .near) (hs.sink .far) hn
    have hne : (relay.link.on .near).source.ending ≠ none := by
      intro hnone
      cases he.symm.trans hnone
    obtain ⟨hside, hm⟩ := hs.ending .near hne
    refine Or.inr ⟨hm, ?_⟩
    cases closing with
    | outbound =>
      change Outbound.Lane.Completed _ (relay.stop .outbound _).outboundLane
      rw [outboundLane_stop]
      exact ho.completed hd hc
    | inbound => cases hside
  | haltInbound hh =>
    obtain ⟨_, ⟨reader, hd⟩, rfl, hc, he⟩ := hh.at_end (hs.source .far) (hs.sink .near) hi hfits
    have hne : (relay.link.on .far).source.ending ≠ none := by
      intro hnone
      cases he.symm.trans hnone
    obtain ⟨hside, hm⟩ := hs.ending .far hne
    refine Or.inr ⟨hm, ?_⟩
    cases closing with
    | outbound => cases hside
    | inbound =>
      change Inbound.Lane.Completed _ (Relay.stop .inbound _ _).inboundLane
      rw [inboundLane_stop]
      exact hi.completed hd hc

end

lemma closes_of_run (hr : Run capacities (start {}) events relay) (hn : 0 < capacities.nearRead)
    (hc : Link.Closing closing.reads events)
    (hfits : ∀ header ∈ Record.headers (events.flatMap (Link.Event.arrived .far)).flatten,
      header.length.toNat ≤ capacities.farRecord) : relay.Closes capacities events closing := by
  induction hr with
  | start => exact ⟨nofun, Or.inl ((paired_start {}).open_iff.mp rfl)⟩
  | step move hr hs ih =>
    obtain ⟨hstops, hcompleted⟩ := ih hc hfits
    have ht := turn_of_step hs
    have hsteady := isSteady_of_run hr hc
    refine ⟨stops_of_turn hn hfits hr hsteady ht hstops, ?_⟩
    rcases hcompleted with hl | ⟨hm, hd⟩
    · exact completed_of_turn hn hfits hr hsteady hl ht
    · exact Or.inr ⟨hm, hd.turn ht⟩
  | @notice events _ event hr ih =>
    have hfits' : ∀ header ∈ Record.headers (events.flatMap (Link.Event.arrived .far)).flatten,
        header.length.toNat ≤ capacities.farRecord := by
      intro header hm
      apply hfits header
      rw [List.flatMap_append, List.flatten_append]
      exact Record.mem_headers_append hm
    obtain ⟨hstops, hcompleted⟩ := ih hc.init hfits'
    refine ⟨hstops, ?_⟩
    rcases hcompleted with hl | ⟨hm, hd⟩
    · exact Or.inl hl
    · exact Or.inr ⟨List.mem_append_left _ hm, hd.notice (hc.arrived_last hm)⟩

lemma Closes.outbound_taken (h : relay.Closes capacities events .outbound)
    (hr : Run capacities (start {}) events relay) (hw : Waits capacities relay) :
    relay.link.far.sink.IsStalled ∨ relay.link.far.sink.taken =
      ((events.flatMap (Link.Event.arrived .near)).flatMap
        (Bytes.cut capacities.nearRead)).flatMap framed := by
  rcases h.completed with hl | ⟨_, _, _, hs⟩
  · exact outbound_delivered hl hw (follows_of_run hr).1
  · exact Or.inr hs.taken_eq

lemma Closes.inbound_taken (h : relay.Closes capacities events .inbound)
    (hr : Run capacities (start {}) events relay) (hw : Waits capacities relay) :
    relay.link.near.sink.IsStalled ∨ relay.link.near.sink.taken =
      (Record.payloads (events.flatMap (Link.Event.arrived .far)).flatten).flatten := by
  rcases h.completed with hl | ⟨_, _, _, hs⟩
  · exact inbound_delivered hl hw (follows_of_run hr).2
  · have ht := hs.taken_eq
    rw [List.nil_append, List.flatMap_id] at ht
    exact Or.inr ht

end Relay

end Camouflage

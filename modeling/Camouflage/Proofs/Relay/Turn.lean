import Camouflage.Proofs.Connection
import Camouflage.Relay.Schedule

/-! The turns of a relay. A turn of one direction changes its own lane only: the half it reads, the
half it writes, and its place. -/

namespace Camouflage.Relay

structure Outbound.Lane where
  source : Source
  sink : Sink
  doing : Outbound
  sent : Nat

structure Inbound.Lane where
  source : Source
  sink : Sink
  doing : Inbound
  received : Nat

def outboundLane (relay : Relay) : Outbound.Lane :=
  ⟨relay.link.near.source, relay.link.far.sink, relay.flow.outbound, relay.flow.sent⟩

def inboundLane (relay : Relay) : Inbound.Lane :=
  ⟨relay.link.far.source, relay.link.near.sink, relay.flow.inbound, relay.flow.received⟩

def withOutbound (lane : Outbound.Lane) (relay : Relay) : Relay where
  link.near := { relay.link.near with source := lane.source }
  link.far := { relay.link.far with sink := lane.sink }
  flow := { relay.flow with outbound := lane.doing, sent := lane.sent }

def withInbound (lane : Inbound.Lane) (relay : Relay) : Relay where
  link.near := { relay.link.near with sink := lane.sink }
  link.far := { relay.link.far with source := lane.source }
  flow := { relay.flow with inbound := lane.doing, received := lane.received }

def framed (piece : Bytes) : Bytes := Record.frame .applicationData .tls12 piece

inductive Outbound.Turn (room : Nat) (lane : Lane) : Lane → Prop
  | read {piece : Bytes} {source : Source} : lane.doing = .reading →
      lane.source.read room = .got piece source →
      Turn room lane { lane with source, doing := .writing (framed piece) piece.length }
  | write {left rest : Bytes} {size : Nat} {sink : Sink} : lane.doing = .writing left size →
      lane.sink.write left = .took rest sink → rest ≠ [] →
      Turn room lane { lane with sink, doing := .writing rest size }
  | complete {left : Bytes} {size : Nat} {sink : Sink} : lane.doing = .writing left size →
      lane.sink.write left = .took [] sink →
      Turn room lane { lane with sink, doing := .reading, sent := lane.sent + size }

inductive Outbound.Halt (room : Nat) (lane : Lane) : Option IoError → Prop
  | ended : lane.doing = .reading → lane.source.read room = .ended → Halt room lane none
  | readFailed {error : IoError} : lane.doing = .reading → lane.source.read room = .failed error →
      Halt room lane (some error)
  | writeFailed {left : Bytes} {size : Nat} {error : IoError} : lane.doing = .writing left size →
      lane.sink.write left = .failed error → Halt room lane (some error)

inductive Inbound.Turn (capacity : Nat) (lane : Lane) : Lane → Prop
  | read {reader reader' : Record.Reader} {piece : Bytes} {source : Source} :
      lane.doing = .reading reader → lane.source.read reader.missing = .got piece source →
      reader.feed capacity piece = .incomplete reader' →
      Turn capacity lane { lane with source, doing := .reading reader' }
  | skip {reader : Record.Reader} {piece : Bytes} {source : Source} :
      lane.doing = .reading reader → lane.source.read reader.missing = .got piece source →
      reader.feed capacity piece = .complete [] →
      Turn capacity lane { lane with source, doing := .reading .start }
  | unwrap {reader : Record.Reader} {piece payload : Bytes} {source : Source} :
      lane.doing = .reading reader → lane.source.read reader.missing = .got piece source →
      reader.feed capacity piece = .complete payload → payload ≠ [] →
      Turn capacity lane { lane with source, doing := .writing payload payload.length }
  | write {left rest : Bytes} {size : Nat} {sink : Sink} : lane.doing = .writing left size →
      lane.sink.write left = .took rest sink → rest ≠ [] →
      Turn capacity lane { lane with sink, doing := .writing rest size }
  | complete {left : Bytes} {size : Nat} {sink : Sink} : lane.doing = .writing left size →
      lane.sink.write left = .took [] sink →
      Turn capacity lane
        { lane with sink, doing := .reading .start, received := lane.received + size }

inductive Inbound.Halt (capacity : Nat) (lane : Lane) : Source → Option IoError → Prop
  | ended {reader : Record.Reader} : lane.doing = .reading reader →
      lane.source.read reader.missing = .ended →
      Halt capacity lane lane.source (readingError .earlyEnd)
  | readFailed {reader : Record.Reader} {error : IoError} : lane.doing = .reading reader →
      lane.source.read reader.missing = .failed error →
      Halt capacity lane lane.source (readingError error)
  | tooLong {reader : Record.Reader} {piece : Bytes} {source : Source} {header : Record.Header} :
      lane.doing = .reading reader → lane.source.read reader.missing = .got piece source →
      reader.feed capacity piece = .tooLong header →
      Halt capacity lane source (readingError (.recordTooLong header capacity))
  | writeFailed {left : Bytes} {size : Nat} {error : IoError} : lane.doing = .writing left size →
      lane.sink.write left = .failed error → Halt capacity lane lane.source (some error)

inductive Turn (capacities : Capacities) (relay : Relay) : Relay → Prop
  | heed {direction : Direction} : relay.flow.pipe.closed = true →
      isLive direction relay.flow = true → Turn capacities relay (relay.stop direction none)
  | outbound {lane : Outbound.Lane} : Outbound.Turn capacities.nearRead relay.outboundLane lane →
      Turn capacities relay (relay.withOutbound lane)
  | inbound {lane : Inbound.Lane} : Inbound.Turn capacities.farRecord relay.inboundLane lane →
      Turn capacities relay (relay.withInbound lane)
  | haltOutbound {error : Option IoError} :
      Outbound.Halt capacities.nearRead relay.outboundLane error →
      Turn capacities relay (relay.stop .outbound error)
  | haltInbound {source : Source} {error : Option IoError} :
      Inbound.Halt capacities.farRecord relay.inboundLane source error →
      Turn capacities relay
        ((relay.withInbound { relay.inboundLane with source }).stop .inbound error)

variable {capacities : Capacities} {relay relay' : Relay} {error : Option IoError} {move : Move}

lemma of_proceedOutbound (h : proceedOutbound capacities relay = some relay') :
    (∃ lane, Outbound.Turn capacities.nearRead relay.outboundLane lane ∧
      relay' = relay.withOutbound lane) ∨
    ∃ error, Outbound.Halt capacities.nearRead relay.outboundLane error ∧
      relay' = relay.stop .outbound error := by
  obtain ⟨link, flow⟩ := relay
  simp only [proceedOutbound] at h
  split at h
  · cases h
  · next hd =>
    split at h
    · cases h
    · next hr =>
      cases h
      exact Or.inr ⟨_, .ended hd hr, rfl⟩
    · next hr =>
      cases h
      exact Or.inr ⟨_, .readFailed hd hr, rfl⟩
    · next hr =>
      cases h
      exact Or.inl ⟨_, .read hd hr, rfl⟩
  · next hd =>
    split at h
    · cases h
    · next hw =>
      cases h
      exact Or.inr ⟨_, .writeFailed hd hw, rfl⟩
    · next hw =>
      split at h
      · next hl =>
        cases h
        subst hl
        exact Or.inl ⟨_, .complete hd hw, rfl⟩
      · next hl =>
        cases h
        exact Or.inl ⟨_, .write hd hw hl, rfl⟩

lemma of_proceedInbound (h : proceedInbound capacities relay = some relay') :
    (∃ lane, Inbound.Turn capacities.farRecord relay.inboundLane lane ∧
      relay' = relay.withInbound lane) ∨
    ∃ source error, Inbound.Halt capacities.farRecord relay.inboundLane source error ∧
      relay' = (relay.withInbound { relay.inboundLane with source }).stop .inbound error := by
  obtain ⟨link, flow⟩ := relay
  simp only [proceedInbound] at h
  split at h
  · cases h
  · next hd =>
    split at h
    · cases h
    · next hr =>
      cases h
      exact Or.inr ⟨_, _, .ended hd hr, rfl⟩
    · next hr =>
      cases h
      exact Or.inr ⟨_, _, .readFailed hd hr, rfl⟩
    · next hr =>
      split at h
      · next hf =>
        cases h
        exact Or.inl ⟨_, .read hd hr hf, rfl⟩
      · next hf =>
        cases h
        exact Or.inr ⟨_, _, .tooLong hd hr hf, rfl⟩
      · next hf =>
        split at h
        · next hp =>
          cases h
          subst hp
          exact Or.inl ⟨_, .skip hd hr hf, rfl⟩
        · next hp =>
          cases h
          exact Or.inl ⟨_, .unwrap hd hr hf hp, rfl⟩
  · next hd =>
    split at h
    · cases h
    · next hw =>
      cases h
      exact Or.inr ⟨_, _, .writeFailed hd hw, rfl⟩
    · next hw =>
      split at h
      · next hl =>
        cases h
        subst hl
        exact Or.inl ⟨_, .complete hd hw, rfl⟩
      · next hl =>
        cases h
        exact Or.inl ⟨_, .write hd hw hl, rfl⟩

lemma turn_of_step (h : step capacities relay move = some relay') :
    Turn capacities relay relay' := by
  cases move with
  | heed direction =>
    simp only [step] at h
    split at h
    · next hc =>
      obtain ⟨hc, hl⟩ := Bool.and_eq_true_iff.mp hc
      cases h
      exact .heed hc hl
    · cases h
  | proceed direction =>
    cases direction with
    | outbound =>
      rcases of_proceedOutbound h with ⟨lane, ht, rfl⟩ | ⟨error, hh, rfl⟩
      · exact .outbound ht
      · exact .haltOutbound hh
    | inbound =>
      rcases of_proceedInbound h with ⟨lane, ht, rfl⟩ | ⟨source, error, hh, rfl⟩
      · exact .inbound ht
      · exact .haltInbound hh

lemma outbound_waits (h : proceedOutbound capacities relay = none) :
    relay.flow.outbound = .ended ∨
      relay.flow.outbound = .reading ∧ relay.link.near.source.read capacities.nearRead = .waits ∨
      ∃ left size, relay.flow.outbound = .writing left size ∧ relay.link.far.sink.write left = .waits := by
  obtain ⟨link, flow⟩ := relay
  simp only [proceedOutbound] at h
  split at h
  · next hd => exact Or.inl hd
  · next hd =>
    split at h
    · next hr => exact Or.inr (Or.inl ⟨hd, hr⟩)
    · cases h
    · cases h
    · cases h
  · next hd =>
    split at h
    · next hw => exact Or.inr (Or.inr ⟨_, _, hd, hw⟩)
    · cases h
    · split at h <;> cases h

lemma inbound_waits (h : proceedInbound capacities relay = none) :
    relay.flow.inbound = .ended ∨
      (∃ reader, relay.flow.inbound = .reading reader ∧
        relay.link.far.source.read reader.missing = .waits) ∨
      ∃ left size, relay.flow.inbound = .writing left size ∧ relay.link.near.sink.write left = .waits := by
  obtain ⟨link, flow⟩ := relay
  simp only [proceedInbound] at h
  split at h
  · next hd => exact Or.inl hd
  · next hd =>
    split at h
    · next hr => exact Or.inr (Or.inl ⟨_, hd, hr⟩)
    · cases h
    · cases h
    · split at h
      · cases h
      · cases h
      · split at h <;> cases h
  · next hd =>
    split at h
    · next hw => exact Or.inr (Or.inr ⟨_, _, hd, hw⟩)
    · cases h
    · split at h <;> cases h

lemma isLive_outbound_iff {flow : Flow} :
    isLive .outbound flow = true ↔ flow.outbound ≠ .ended := by
  cases h : flow.outbound <;> simp [isLive, h]

lemma isLive_inbound_iff {flow : Flow} : isLive .inbound flow = true ↔ flow.inbound ≠ .ended := by
  cases h : flow.inbound <;> simp [isLive, h]

lemma Outbound.Turn.live {room : Nat} {lane lane' : Outbound.Lane} (h : Turn room lane lane') :
    lane.doing ≠ .ended ∧ lane'.doing ≠ .ended := by
  cases h <;> simp [*]

lemma Outbound.Halt.live {room : Nat} {lane : Outbound.Lane} (h : Halt room lane error) :
    lane.doing ≠ .ended := by
  cases h <;> simp [*]

lemma Inbound.Turn.live {capacity : Nat} {lane lane' : Inbound.Lane} (h : Turn capacity lane lane') :
    lane.doing ≠ .ended ∧ lane'.doing ≠ .ended := by
  cases h <;> simp [*]

lemma Inbound.Halt.live {capacity : Nat} {lane : Inbound.Lane} {source : Source}
    (h : Halt capacity lane source error) : lane.doing ≠ .ended := by
  cases h <;> simp [*]

variable (relay) (direction : Direction) (error)

lemma outboundLane_stop : (relay.stop direction error).outboundLane =
    { relay.outboundLane with doing := (relay.flow.stop direction error).outbound } := by
  simp only [stop]
  split
  · cases direction <;> simp [outboundLane, Link.release, Flow.stop]
  · cases direction <;> simp [outboundLane, Flow.stop]

lemma inboundLane_stop : (relay.stop direction error).inboundLane =
    { relay.inboundLane with doing := (relay.flow.stop direction error).inbound } := by
  simp only [stop]
  split
  · cases direction <;> simp [inboundLane, Link.release, Flow.stop]
  · cases direction <;> simp [inboundLane, Flow.stop]

variable {relay}

lemma outboundLane_of_turn (h : Turn capacities relay relay') :
    relay'.outboundLane = relay.outboundLane ∨
      Outbound.Turn capacities.nearRead relay.outboundLane relay'.outboundLane ∨
      relay'.outboundLane = { relay.outboundLane with doing := .ended } := by
  cases h with
  | @heed direction _ _ =>
    rw [outboundLane_stop]
    cases direction with
    | outbound => exact Or.inr (Or.inr rfl)
    | inbound => exact Or.inl rfl
  | outbound ht => exact Or.inr (Or.inl ht)
  | inbound _ => exact Or.inl rfl
  | haltOutbound _ =>
    rw [outboundLane_stop]
    exact Or.inr (Or.inr rfl)
  | haltInbound _ =>
    rw [outboundLane_stop]
    exact Or.inl rfl

lemma outboundLane_of_ended (h : Turn capacities relay relay') (hd : relay.flow.outbound = .ended) :
    relay'.outboundLane = relay.outboundLane := by
  have hl : relay.outboundLane.doing = .ended := hd
  rcases outboundLane_of_turn h with he | ht | he
  · exact he
  · exact absurd hl ht.live.1
  · rw [he, ← hl]

lemma outbound_silent (h : Turn capacities relay relay') (hd : relay.flow.outbound = .ended) :
    relay'.flow.outbound = .ended ∧ relay'.link.far.sink = relay.link.far.sink := by
  have he := outboundLane_of_ended h hd
  exact ⟨(congrArg Outbound.Lane.doing he).trans hd, congrArg Outbound.Lane.sink he⟩

/-- Before its end the inbound lane may lose a header from its source. -/
lemma inboundLane_of_turn (h : Turn capacities relay relay') :
    relay'.inboundLane = relay.inboundLane ∨
      Inbound.Turn capacities.farRecord relay.inboundLane relay'.inboundLane ∨
      relay'.inboundLane = { relay.inboundLane with doing := .ended } ∨
      ∃ source error, Inbound.Halt capacities.farRecord relay.inboundLane source error ∧
        relay'.inboundLane = { relay.inboundLane with source, doing := .ended } := by
  cases h with
  | @heed direction _ _ =>
    rw [inboundLane_stop]
    cases direction with
    | outbound => exact Or.inl rfl
    | inbound => exact Or.inr (Or.inr (Or.inl rfl))
  | outbound _ => exact Or.inl rfl
  | inbound ht => exact Or.inr (Or.inl ht)
  | haltOutbound _ =>
    rw [inboundLane_stop]
    exact Or.inl rfl
  | haltInbound hh =>
    rw [inboundLane_stop]
    exact Or.inr (Or.inr (Or.inr ⟨_, _, hh, rfl⟩))

lemma inboundLane_of_ended (h : Turn capacities relay relay') (hd : relay.flow.inbound = .ended) :
    relay'.inboundLane = relay.inboundLane := by
  have hl : relay.inboundLane.doing = .ended := hd
  rcases inboundLane_of_turn h with he | ht | he | ⟨source, error, hh, he⟩
  · exact he
  · exact absurd hl ht.live.1
  · rw [he, ← hl]
  · exact absurd hl hh.live

def through (capacities : Capacities) (events : List Link.Event) (relay : Relay) : Relay :=
  events.foldl (fun relay event => (relay.notice event).settle capacities) relay

variable {start : Relay} {events later : List Link.Event}

lemma Run.trans (h : Run capacities start events relay) (h' : Run capacities relay later relay') :
    Run capacities start (events ++ later) relay' := by
  induction h' with
  | start =>
    rw [List.append_nil]
    exact h
  | step move _ hs ih => exact .step move ih hs
  | notice event _ ih =>
    rw [← List.append_assoc]
    exact .notice event ih

lemma run_settle (capacities : Capacities) (relay : Relay) :
    Run capacities relay [] (relay.settle capacities) := by
  fun_induction settle capacities relay with
  | case1 => exact .start
  | case2 relay relay' h ih =>
    obtain ⟨move, _, hm⟩ := List.exists_of_findSome?_eq_some h
    exact (Run.step move .start hm).trans ih

lemma run_through (capacities : Capacities) (events : List Link.Event) (relay : Relay) :
    Run capacities relay events (relay.through capacities events) := by
  induction events generalizing relay with
  | nil => exact .start
  | cons event events ih =>
    have hn : Run capacities relay [event] (relay.notice event) := .notice event .start
    exact (hn.trans (run_settle capacities _)).trans (ih _)

end Camouflage.Relay

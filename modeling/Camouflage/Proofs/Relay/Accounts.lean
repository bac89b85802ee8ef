import Camouflage.Proofs.Record.Frame
import Camouflage.Proofs.Record.Reader
import Camouflage.Proofs.Relay.Turn

/-! What a direction has written, and counted, of what it has read. Both directions take in units,
pieces or payloads, and write each in a form of its own before they take in the next. -/

namespace Camouflage.Relay

section

variable (form : Bytes → Bytes) (before : Bytes)

structure Settled (units : List Bytes) (taken : Bytes) (count : Nat) : Prop where
  taken_eq : taken = before ++ units.flatMap form
  count_eq : count = units.flatten.length

def Underway (units : List Bytes) (taken : Bytes) (count : Nat) (left : Bytes) (size : Nat) : Prop :=
  left ≠ [] ∧ ∃ done unit whole part, units = done ++ [unit] ∧ size = unit.length ∧
    Settled form before done whole count ∧ taken = whole ++ part ∧ part ++ left = form unit

def Stopped (units : List Bytes) (taken : Bytes) (count : Nat) : Prop :=
  Settled form before units taken count ∨ ∃ left size, Underway form before units taken count left size

variable {form before} {units : List Bytes} {unit taken left rest : Bytes} {count size : Nat}
  {sink sink' : Sink}

lemma settled_nil : Settled form before [] before 0 := ⟨by simp, rfl⟩

lemma Settled.begin (h : Settled form before units taken count) (hne : form unit ≠ []) :
    Underway form before (units ++ [unit]) taken count (form unit) unit.length :=
  ⟨hne, units, unit, taken, [], rfl, rfl, h, by simp, rfl⟩

lemma Settled.skip (h : Settled form before units taken count) (hf : form [] = []) :
    Settled form before (units ++ [[]]) taken count := by
  refine ⟨?_, ?_⟩
  · rw [h.taken_eq, List.flatMap_append, List.flatMap_singleton, hf, List.append_nil]
  · rw [h.count_eq, List.flatten_append, List.length_append]
    rfl

lemma Underway.write (h : Underway form before units sink.taken count left size)
    (hw : sink.write left = .took rest sink') (hr : rest ≠ []) :
    Underway form before units sink'.taken count rest size := by
  obtain ⟨_, done, unit, whole, part, hu, hs, hd, ht, hp⟩ := h
  obtain ⟨more, rfl, hm⟩ := Sink.split_of_write hw
  refine ⟨hr, done, unit, whole, part ++ more, hu, hs, hd, ?_, ?_⟩
  · rw [hm, ht, List.append_assoc]
  · rw [← hp, List.append_assoc]

lemma Underway.complete (h : Underway form before units sink.taken count left size)
    (hw : sink.write left = .took [] sink') :
    Settled form before units sink'.taken (count + size) := by
  obtain ⟨_, done, unit, whole, part, rfl, rfl, hd, ht, hp⟩ := h
  obtain ⟨more, rfl, hm⟩ := Sink.split_of_write hw
  refine ⟨?_, ?_⟩
  · rw [hm, ht, hd.taken_eq, List.flatMap_append, List.flatMap_singleton, ← hp]
    simp only [List.append_assoc, List.append_nil]
  · rw [hd.count_eq, List.flatten_append, List.length_append, List.flatten_singleton]

lemma Underway.taken_append (h : Underway form before units taken count left size) :
    taken ++ left = before ++ units.flatMap form := by
  obtain ⟨_, done, unit, whole, part, rfl, _, hd, rfl, hp⟩ := h
  rw [hd.taken_eq, List.flatMap_append, List.flatMap_singleton, ← hp]
  simp only [List.append_assoc]

lemma Stopped.isPrefix (h : Stopped form before units taken count) :
    taken <+: before ++ units.flatMap form := by
  rcases h with h | ⟨left, size, h⟩
  · exact ⟨[], by rw [h.taken_eq, List.append_nil]⟩
  · rw [← h.taken_append]
    exact List.prefix_append _ _

lemma Stopped.before_isPrefix (h : Stopped form before units taken count) : before <+: taken := by
  rcases h with h | ⟨left, size, _, done, unit, whole, part, _, _, hd, rfl, _⟩
  · rw [h.taken_eq]
    exact List.prefix_append _ _
  · rw [hd.taken_eq, List.append_assoc]
    exact List.prefix_append _ _

end

variable {room capacity skipped : Nat} {before read arrived : Bytes} {units expected : List Bytes}

lemma framed_ne_nil (piece : Bytes) : framed piece ≠ [] :=
  Record.frame_ne_nil .applicationData .tls12 piece

def Outbound.left : Outbound → Bytes
  | .writing left _ => left
  | .reading | .ended => []

namespace Outbound.Lane

variable {lane lane' : Lane}

def Accounts (before : Bytes) (units : List Bytes) (lane : Lane) : Prop :=
  match lane.doing with
  | .reading => Settled framed before units lane.sink.taken lane.sent
  | .writing left size => Underway framed before units lane.sink.taken lane.sent left size
  | .ended => Stopped framed before units lane.sink.taken lane.sent

/-- Of the pieces that are expected, the first have been read and are accounted for, and the others
are there to read. -/
def Follows (room : Nat) (before : Bytes) (expected : List Bytes) (lane : Lane) : Prop :=
  ∃ units, units ++ lane.source.pieces room = expected ∧ lane.Accounts before units

lemma Accounts.stopped (h : lane.Accounts before units) :
    Stopped framed before units lane.sink.taken lane.sent := by
  simp only [Accounts] at h
  split at h
  · exact Or.inl h
  · exact Or.inr ⟨_, _, h⟩
  · exact h

lemma Accounts.taken_append (h : lane.Accounts before units) (hl : lane.doing ≠ .ended) :
    lane.sink.taken ++ lane.doing.left = before ++ units.flatMap framed := by
  simp only [Accounts] at h
  split at h
  · next hd =>
    rw [hd, left, List.append_nil]
    exact h.taken_eq
  · next hd =>
    rw [hd]
    exact h.taken_append
  · next hd => exact absurd hd hl

lemma Follows.turn (h : lane.Follows room before expected) (ht : Turn room lane lane') :
    lane'.Follows room before expected := by
  obtain ⟨units, he, ha⟩ := h
  cases ht with
  | @read piece source hd hr =>
    simp only [Accounts, hd] at ha
    refine ⟨units ++ [piece], ?_, ha.begin (framed_ne_nil piece)⟩
    rw [← he, (Source.pieces_of_read hr).1, List.append_assoc]
    rfl
  | write hd hw hr =>
    simp only [Accounts, hd] at ha
    exact ⟨units, he, ha.write hw hr⟩
  | complete hd hw =>
    simp only [Accounts, hd] at ha
    exact ⟨units, he, ha.complete hw⟩

lemma Follows.stop (h : lane.Follows room before expected) :
    Follows room before expected { lane with doing := .ended } := by
  obtain ⟨units, he, ha⟩ := h
  exact ⟨units, he, ha.stopped⟩

lemma Follows.queue {source : Source} {sink : Sink} {chunks : List Bytes}
    (h : lane.Follows room before expected) (hc : source.chunks = lane.source.chunks ++ chunks)
    (ht : sink.pieces = lane.sink.pieces) :
    Follows room before (expected ++ chunks.flatMap (Bytes.cut room)) { lane with source, sink } := by
  obtain ⟨units, he, ha⟩ := h
  refine ⟨units, ?_, ?_⟩
  · rw [← he, Source.pieces, hc, List.flatMap_append, List.append_assoc]
    rfl
  · have ht : sink.taken = lane.sink.taken := by rw [Sink.taken, ht, Sink.taken]
    simp only [Accounts, ht]
    exact ha

end Outbound.Lane

def Inbound.left : Inbound → Bytes
  | .writing left _ => left
  | .reading _ | .ended => []

namespace Inbound.Lane

variable {lane lane' : Lane}

def Accounts (units : List Bytes) (lane : Lane) : Prop :=
  match lane.doing with
  | .reading _ => Settled id [] units lane.sink.taken lane.received
  | .writing left size => Underway id [] units lane.sink.taken lane.received left size
  | .ended => Stopped id [] units lane.sink.taken lane.received

def Stands (read : Bytes) (lane : Lane) : Prop :=
  match lane.doing with
  | .reading reader => reader.StandsAt read
  | .writing _ _ => Record.Reader.start.StandsAt read
  | .ended => True

/-- Of the bytes that arrived, the first have been read, and the payloads of the records in them are
accounted for but for those that were skipped. -/
def Follows (skipped : Nat) (arrived : Bytes) (lane : Lane) : Prop :=
  ∃ read, read ++ lane.source.bytes = arrived ∧ skipped ≤ (Record.payloads read).length ∧
    lane.Stands read ∧ lane.Accounts ((Record.payloads read).drop skipped)

lemma Accounts.stopped (h : lane.Accounts units) :
    Stopped id [] units lane.sink.taken lane.received := by
  simp only [Accounts] at h
  split at h
  · exact Or.inl h
  · exact Or.inr ⟨_, _, h⟩
  · exact h

lemma Accounts.taken_append (h : lane.Accounts units) (hl : lane.doing ≠ .ended) :
    lane.sink.taken ++ lane.doing.left = units.flatten := by
  simp only [Accounts] at h
  split at h
  · next hd =>
    rw [hd, left, List.append_nil]
    simpa using h.taken_eq
  · next hd =>
    rw [hd]
    simpa [left] using h.taken_append
  · next hd => exact absurd hd hl

lemma Follows.turn (h : lane.Follows skipped arrived) (ht : Turn capacity lane lane') :
    lane'.Follows skipped arrived := by
  obtain ⟨read, hb, hk, hs, ha⟩ := h
  cases ht with
  | read hd hr hf =>
    simp only [Stands, Accounts, hd] at hs ha
    obtain ⟨hs, hu⟩ := hs.incomplete (Source.length_le_of_read hr) hf
    refine ⟨_, ?_, by rw [hu]; exact hk, hs, by rw [hu]; exact ha⟩
    rw [← hb, Source.bytes_of_read hr, List.append_assoc]
  | skip hd hr hf =>
    simp only [Stands, Accounts, hd] at hs ha
    obtain ⟨hs, hu⟩ := hs.complete (Source.length_le_of_read hr) hf
    refine ⟨_, ?_, ?_, hs, ?_⟩
    · rw [← hb, Source.bytes_of_read hr, List.append_assoc]
    · rw [hu, List.length_append]
      omega
    · rw [hu, List.drop_append_of_le_length hk]
      exact ha.skip rfl
  | unwrap hd hr hf hne =>
    simp only [Stands, Accounts, hd] at hs ha
    obtain ⟨hs, hu⟩ := hs.complete (Source.length_le_of_read hr) hf
    refine ⟨_, ?_, ?_, hs, ?_⟩
    · rw [← hb, Source.bytes_of_read hr, List.append_assoc]
    · rw [hu, List.length_append]
      omega
    · rw [hu, List.drop_append_of_le_length hk]
      exact ha.begin hne
  | write hd hw hr =>
    simp only [Stands, Accounts, hd] at hs ha
    exact ⟨read, hb, hk, hs, ha.write hw hr⟩
  | complete hd hw =>
    simp only [Stands, Accounts, hd] at hs ha
    exact ⟨read, hb, hk, hs, ha.complete hw⟩

lemma Follows.stop (h : lane.Follows skipped arrived) :
    Follows skipped arrived { lane with doing := .ended } := by
  obtain ⟨read, hb, hk, _, ha⟩ := h
  exact ⟨read, hb, hk, trivial, ha.stopped⟩

lemma Follows.halt {source : Source} {error : Option IoError} (h : lane.Follows skipped arrived)
    (hh : Halt capacity lane source error) :
    Follows skipped arrived { lane with source, doing := .ended } := by
  cases hh with
  | ended _ _ => exact h.stop
  | readFailed _ _ => exact h.stop
  | tooLong hd hr hf =>
    obtain ⟨read, hb, hk, hs, ha⟩ := h
    simp only [Stands, hd] at hs
    obtain ⟨_, _, hu⟩ := hs.tooLong (Source.length_le_of_read hr) hf
    refine ⟨read ++ _, ?_, by rw [hu]; exact hk, trivial, by rw [hu]; exact ha.stopped⟩
    rw [← hb, Source.bytes_of_read hr, List.append_assoc]
  | writeFailed _ _ => exact h.stop

lemma Follows.queue {source : Source} {sink : Sink} {chunks : List Bytes}
    (h : lane.Follows skipped arrived) (hc : source.chunks = lane.source.chunks ++ chunks)
    (ht : sink.pieces = lane.sink.pieces) :
    Follows skipped (arrived ++ chunks.flatten) { lane with source, sink } := by
  obtain ⟨read, hb, hk, hs, ha⟩ := h
  refine ⟨read, ?_, hk, hs, ?_⟩
  · rw [← hb, Source.bytes, hc, List.flatten_append, List.append_assoc]
    rfl
  · have ht : sink.taken = lane.sink.taken := by rw [Sink.taken, ht, Sink.taken]
    simp only [Accounts, ht]
    exact ha

end Inbound.Lane

variable {capacities : Capacities} {relay relay' : Relay}

lemma outbound_follows_of_turn (h : Turn capacities relay relay')
    (hf : relay.outboundLane.Follows capacities.nearRead before expected) :
    relay'.outboundLane.Follows capacities.nearRead before expected := by
  rcases outboundLane_of_turn h with he | ht | he
  · rw [he]
    exact hf
  · exact hf.turn ht
  · rw [he]
    exact hf.stop

lemma inbound_follows_of_turn (h : Turn capacities relay relay')
    (hf : relay.inboundLane.Follows skipped arrived) :
    relay'.inboundLane.Follows skipped arrived := by
  rcases inboundLane_of_turn h with he | ht | he | ⟨source, error, hh, he⟩
  · rw [he]
    exact hf
  · exact hf.turn ht
  · rw [he]
    exact hf.stop
  · rw [he]
    exact hf.halt hh

lemma outbound_follows_of_notice (event : Link.Event)
    (hf : relay.outboundLane.Follows room before expected) :
    (relay.notice event).outboundLane.Follows room before
      (expected ++ (event.arrived .near).flatMap (Bytes.cut room)) :=
  hf.queue (Link.chunks_apply event relay.link .near) (Link.kept_apply event relay.link .far).1

lemma inbound_follows_of_notice (event : Link.Event)
    (hf : relay.inboundLane.Follows skipped arrived) :
    (relay.notice event).inboundLane.Follows skipped (arrived ++ (event.arrived .far).flatten) :=
  hf.queue (Link.chunks_apply event relay.link .far) (Link.kept_apply event relay.link .near).1

end Camouflage.Relay

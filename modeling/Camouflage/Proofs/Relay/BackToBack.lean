import Camouflage.Proofs.Relay.Closing
import Mathlib.Data.List.Infix

namespace Camouflage.Relay

variable {sender receiver : Capacities} {sent received : List Link.Event} {first second : Relay}
  {units : List Bytes} {arrived : Bytes} {header : Record.Header}

def pieces (capacities : Capacities) (events : List Link.Event) : List Bytes :=
  (events.flatMap (Link.Event.arrived .near)).flatMap (Bytes.cut capacities.nearRead)

lemma flatten_pieces (capacities : Capacities) (events : List Link.Event) :
    (pieces capacities events).flatten = (events.flatMap (Link.Event.arrived .near)).flatten :=
  Source.flatten_pieces capacities.nearRead ⟨events.flatMap (Link.Event.arrived .near), none⟩

lemma length_le_of_mem_pieces (hn : 0 < sender.nearRead) {piece : Bytes}
    (h : piece ∈ pieces sender sent) : piece.length ≤ sender.nearRead := by
  obtain ⟨chunk, _, hc⟩ := List.mem_flatMap.mp h
  exact Bytes.length_le_of_mem_cut hn hc

lemma far_taken_isPrefix (h : Run sender (start {}) sent first) :
    first.link.far.sink.taken <+: (pieces sender sent).flatMap framed := by
  obtain ⟨units, he, ha⟩ := (follows_of_run h).1
  have hu : units <+: pieces sender sent := ⟨_, he⟩
  have ht := ha.stopped.isPrefix
  rw [List.nil_append] at ht
  rw [List.flatMap_def] at ht ⊢
  exact ht.trans (hu.map framed).flatten

lemma near_taken_isPrefix (h : Run receiver (start {}) received second) :
    second.link.near.sink.taken <+:
      (Record.payloads (received.flatMap (Link.Event.arrived .far)).flatten).flatten := by
  obtain ⟨read, hb, _, _, ha⟩ := (follows_of_run h).2
  have ht := ha.stopped.isPrefix
  rw [List.nil_append, List.flatMap_id, List.drop_zero] at ht
  rw [← hb]
  exact ht.trans (Record.payloads_prefix read _).flatten

lemma flatten_payloads_framed (units : List Bytes) :
    (Record.payloads (units.flatMap framed)).flatten = units.flatten :=
  Record.flatten_payloads_frames .applicationData .tls12 units

lemma payloads_flatten_isPrefix (h : arrived <+: units.flatMap framed) :
    (Record.payloads arrived).flatten <+: units.flatten := by
  obtain ⟨rest, hr⟩ := h
  have hp := (Record.payloads_prefix arrived rest).flatten
  rw [hr, flatten_payloads_framed] at hp
  exact hp

lemma length_le_of_mem_headers {size : Nat} (hs : ∀ unit ∈ units, unit.length ≤ size)
    (h : arrived <+: units.flatMap framed) (hm : header ∈ Record.headers arrived) :
    header.length.toNat ≤ min size Record.maxPayload := by
  obtain ⟨rest, hr⟩ := h
  have hm := Record.mem_headers_append (b := rest) hm
  rw [hr] at hm
  exact Record.length_le_of_mem_headers .applicationData .tls12 hs hm

/-- What the second relay writes to its near side are at every moment the first of the bytes that the
first one has read, and it does not stop for an error. Once the first one has written all and the second
one has received it, all is there. -/
theorem back_to_back (h : Run sender (start {}) sent first)
    (h' : Run receiver (start {}) received second)
    (hsender : 1 ≤ sender.nearRead) (hreceiver : 1 ≤ receiver.nearRead)
    (hroom : min sender.nearRead Record.maxPayload ≤ receiver.farRecord)
    (hsent : Link.Closing .near sent) (hreceived : Link.Closing .far received)
    (hfits : ∀ header ∈ Record.headers (sent.flatMap (Link.Event.arrived .far)).flatten,
      header.length.toNat ≤ sender.farRecord)
    (hcut : (received.flatMap (Link.Event.arrived .far)).flatten <+: first.link.far.sink.taken) :
    second.link.near.sink.taken <+: (sent.flatMap (Link.Event.arrived .near)).flatten ∧
    (∀ stop ∈ second.flow.stops, stop.error = none) ∧
    (Waits sender first → ¬ first.link.far.sink.IsStalled →
      (received.flatMap (Link.Event.arrived .far)).flatten = first.link.far.sink.taken →
      Waits receiver second → ¬ second.link.near.sink.IsStalled →
      second.link.near.sink.taken = (sent.flatMap (Link.Event.arrived .near)).flatten) := by
  have harrived := hcut.trans (far_taken_isPrefix h)
  have hheaders : ∀ header ∈ Record.headers (received.flatMap (Link.Event.arrived .far)).flatten,
      header.length.toNat ≤ receiver.farRecord := by
    intro header hm
    have hl := length_le_of_mem_headers (fun _ => length_le_of_mem_pieces hsender) harrived hm
    exact Nat.le_trans hl hroom
  have hfirst : first.Closes sender sent .outbound := closes_of_run h hsender hsent hfits
  have hsecond : second.Closes receiver received .inbound :=
    closes_of_run h' hreceiver hreceived hheaders
  refine ⟨?_, hsecond.stops, ?_⟩
  · rw [← flatten_pieces sender sent]
    exact (near_taken_isPrefix h').trans (payloads_flatten_isPrefix harrived)
  · intro hw hs heq hw' hs'
    have hf := (hfirst.outbound_taken h hw).resolve_left hs
    have hn := (hsecond.inbound_taken h' hw').resolve_left hs'
    change first.link.far.sink.taken = (pieces sender sent).flatMap framed at hf
    rw [hn, heq, hf, flatten_payloads_framed, flatten_pieces]

-- what the default capacities read at once fits into what they accept
example : min ({} : Capacities).nearRead Record.maxPayload ≤ ({} : Capacities).farRecord := by decide

theorem three_records_recut : ∃ first second,
    Run ⟨3, 64⟩ (start {}) [.arrive .near [[1, 2, 3, 4], [5]], .finish .near .closed] first ∧
    Run ⟨1, 4⟩ (start {})
      [.arrive .far [[0x17, 3], [3, 0, 3, 1, 2, 3, 0x17, 3, 3, 0]],
        .arrive .far [[1, 4, 0x17], [3, 3, 0, 1, 5]], .finish .far .closed] second ∧
    second.link.near.sink.taken = [1, 2, 3, 4, 5] := by
  obtain ⟨first, hr, hw, ht, hl⟩ : ∃ first,
      Run ⟨3, 64⟩ (start {}) [.arrive .near [[1, 2, 3, 4], [5]], .finish .near .closed] first ∧
      Waits ⟨3, 64⟩ first ∧
      first.link.far.sink.taken = [0x17, 3, 3, 0, 3, 1, 2, 3, 0x17, 3, 3, 0, 1, 4, 0x17, 3, 3, 0, 1, 5] ∧
      first.link.far.sink.limit = none :=
    ⟨_, run_through _ _ _, settle_waits _ _, by cbv, by cbv⟩
  obtain ⟨second, hr', hw', hl'⟩ : ∃ second,
      Run ⟨1, 4⟩ (start {})
        [.arrive .far [[0x17, 3], [3, 0, 3, 1, 2, 3, 0x17, 3, 3, 0]],
          .arrive .far [[1, 4, 0x17], [3, 3, 0, 1, 5]], .finish .far .closed] second ∧
      Waits ⟨1, 4⟩ second ∧ second.link.near.sink.limit = none :=
    ⟨_, run_through _ _ _, settle_waits _ _, by cbv⟩
  have hsent : ∀ event ∈ [Link.Event.arrive .near [[1, 2, 3, 4], [5]]], event.IsCalm := by
    simp [Link.Event.IsCalm]
  have hreceived : ∀ event ∈ [Link.Event.arrive .far [[0x17, 3], [3, 0, 3, 1, 2, 3, 0x17, 3, 3, 0]],
      .arrive .far [[1, 4, 0x17], [3, 3, 0, 1, 5]]], event.IsCalm := by
    simp [Link.Event.IsCalm]
  have hd := (back_to_back hr hr' (by decide) (by decide) (by decide) (.finish hsent)
    (.finish hreceived) (by decide +kernel) (by rw [ht]; exact List.prefix_rfl)).2.2
  refine ⟨first, second, hr, hr', ?_⟩
  exact hd hw (Sink.not_isStalled hl) ht.symm hw' (Sink.not_isStalled hl')

end Camouflage.Relay

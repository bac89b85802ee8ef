import Camouflage.Proofs.Record.Length
import Camouflage.Proofs.Relay.Turn
import Camouflage.Relay.Run

namespace Camouflage.Relay

variable {capacities : Capacities} {link : Link} {events : List Link.Event} {relay : Relay} {room : Nat}

/-- What is being written is the framed form of a read of at most `room` bytes, or the rest of it. -/
def Outbound.Fits (room : Nat) : Outbound → Prop
  | .writing left size => size ≤ room ∧ left.length ≤ Record.framedLength size
  | .reading | .ended => True

lemma Outbound.Turn.fits {lane lane' : Outbound.Lane} (h : Outbound.Turn room lane lane')
    (hf : lane.doing.Fits room) : lane'.doing.Fits room := by
  cases h with
  | read _ hr =>
    exact ⟨Source.length_le_of_read hr, Nat.le_of_eq (Record.length_frame .applicationData .tls12 _)⟩
  | write hd hw _ =>
    rw [hd] at hf
    obtain ⟨hs, hl⟩ := hf
    obtain ⟨more, rfl, _⟩ := Sink.split_of_write hw
    rw [List.length_append] at hl
    exact ⟨hs, Nat.le_trans (Nat.le_add_left _ _) hl⟩
  | complete _ _ => trivial

lemma fits_of_run (h : Run capacities (start link) events relay) :
    relay.outboundLane.doing.Fits capacities.nearRead := by
  induction h with
  | start => trivial
  | step _ _ hs ih =>
    rcases outboundLane_of_turn (turn_of_step hs) with he | ht | he
    · rw [he]
      exact ih
    · exact ht.fits ih
    · rw [he]
      trivial
  | notice _ _ ih => exact ih

/-- In words of 64 bits the formula for the framed length gives what framing adds to a buffer, for every
payload that fits in memory. It grows with the payload, so what a relay sets aside for its longest read is
enough for whatever it writes to the far side. -/
theorem framed_length_exact :
    (∀ length : UInt64, length.toNat ≤ Record.longestBuffer →
      ∃ word, Record.framedWord? length = some word ∧
        word.toNat = Record.framedLength length.toNat ∧
        ∀ type version buffer payload, payload.length = length.toNat →
          (Record.frameOnto type version buffer payload).length = buffer.length + word.toNat) ∧
    (∀ shorter longer, shorter ≤ longer →
      Record.framedLength shorter ≤ Record.framedLength longer) ∧
    (∀ capacities link events relay left size, Run capacities (start link) events relay →
      relay.flow.outbound = .writing left size →
      left.length ≤ Record.framedLength capacities.nearRead) := by
  refine ⟨?_, ?_, ?_⟩
  · intro length hl
    obtain ⟨word, hw, hn⟩ := Record.exists_framedWord hl
    refine ⟨word, hw, hn, ?_⟩
    intro type version buffer payload hp
    rw [Record.length_frameOnto, hn, hp]
  · intro shorter longer hle
    exact Record.framedLength_mono hle
  · intro capacities link events relay left size hr hd
    have hf : relay.flow.outbound.Fits capacities.nearRead := fits_of_run hr
    rw [hd] at hf
    exact Nat.le_trans hf.2 (Record.framedLength_mono hf.1)

theorem room_for_half_written_record :
    (9223372036854775807 : UInt64).toNat ≤ Record.longestBuffer ∧
    (∃ word, Record.framedWord? 9223372036854775807 = some word ∧ word.toNat = 9226186786621882367) ∧
    (Record.frameOnto .applicationData .tls12 [] (List.replicate 16385 0)).length = 16395 ∧
    Record.framedLength 16384 ≤ Record.framedLength 16385 ∧
    ∃ relay, Run ⟨2, 4⟩ (start {}) [.limit .far (some ⟨3, .stalls⟩), .arrive .near [[1, 2, 3]]] relay ∧
      relay.flow.outbound = .writing [0, 2, 1, 2] 2 ∧
      [(0 : UInt8), 2, 1, 2].length ≤ Record.framedLength 2 := by
  obtain ⟨hexact, hmono, hroom⟩ := framed_length_exact
  obtain ⟨relay, hr, hd⟩ : ∃ relay,
      Run ⟨2, 4⟩ (start {}) [.limit .far (some ⟨3, .stalls⟩), .arrive .near [[1, 2, 3]]] relay ∧
      relay.flow.outbound = .writing [0, 2, 1, 2] 2 := ⟨_, run_through _ _ _, by cbv⟩
  obtain ⟨longest, hl, hln, -⟩ := hexact 9223372036854775807 (by decide)
  obtain ⟨word, -, hn, hf⟩ := hexact 16385 (by decide)
  refine ⟨by decide, ⟨longest, hl, hln⟩, ?_, hmono 16384 16385 (by decide), relay, hr, hd,
    hroom _ _ _ relay _ _ hr hd⟩
  rw [hf .applicationData .tls12 [] (List.replicate 16385 0) List.length_replicate, hn]
  rfl

end Camouflage.Relay

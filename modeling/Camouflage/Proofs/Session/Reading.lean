import Camouflage.Proofs.Bytes
import Camouflage.Proofs.Session.Awaiting

namespace Camouflage.Session

variable {context : Context} {tape : Tape} {dial : Option DialResult} {pieces : List Bytes}
  {read first piece : Bytes} {session session' : Session} {happenings later : List Happening}
  {source : Source} {room index : Nat} {reader : Record.Reader}

structure HasRead (context : Context) (happenings : List Happening) (pieces : List Bytes)
    (read : Bytes) (session : Session) : Prop where
  near : pieces ++ session.link.near.source.pieces context.setup.capacities.nearRead =
    (happenings.flatMap (Happening.arrived .near)).flatMap
      (Bytes.cut context.setup.capacities.nearRead)
  far : read ++ session.link.far.source.bytes =
    (happenings.flatMap (Happening.arrived .far)).flatten

namespace HasRead

lemma same (h : HasRead context happenings pieces read session)
    (hn : session'.link.near.source = session.link.near.source)
    (hf : session'.link.far.source = session.link.far.source) :
    HasRead context happenings pieces read session' := by
  refine ⟨?_, ?_⟩
  · rw [hn]
    exact h.near
  · rw [hf]
    exact h.far

lemma read_near (h : HasRead context happenings pieces read session)
    (hr : session.link.near.source.read context.setup.capacities.nearRead = .got first source)
    (hn : session'.link.near.source = source)
    (hf : session'.link.far.source = session.link.far.source) :
    HasRead context happenings (pieces ++ [first]) read session' := by
  refine ⟨?_, ?_⟩
  · rw [hn, List.append_assoc, List.singleton_append, ← (Source.pieces_of_read hr).1]
    exact h.near
  · rw [hf]
    exact h.far

lemma read_far (h : HasRead context happenings pieces read session)
    (hr : session.link.far.source.read room = .got piece source)
    (hn : session'.link.near.source = session.link.near.source)
    (hf : session'.link.far.source = source) :
    HasRead context happenings pieces (read ++ piece) session' := by
  refine ⟨?_, ?_⟩
  · rw [hn]
    exact h.near
  · rw [hf, List.append_assoc, ← Source.bytes_of_read hr]
    exact h.far

lemma queue (h : HasRead context happenings pieces read session)
    (hc : ∀ side, (session'.link.on side).source.chunks =
      (session.link.on side).source.chunks ++ later.flatMap (Happening.arrived side)) :
    HasRead context (happenings ++ later) pieces read session' := by
  have hnear := hc .near
  have hfar := hc .far
  simp only [Link.on] at hnear hfar
  refine ⟨?_, ?_⟩
  · rw [Source.pieces, hnear, List.flatMap_append, List.flatMap_append, List.flatMap_append, ← h.near,
      List.append_assoc]
    rfl
  · rw [Source.bytes, hfar, List.flatten_append, List.flatMap_append, List.flatten_append, ← h.far,
      List.append_assoc]
    rfl

end HasRead

lemma Outgoing.pieces_le (h : Outgoing context tape pieces session)
    (hr : 1 < session.phase.rank) : pieces.length ≤ 1 := by
  simp only [Outgoing] at h
  split at h
  · rw [h.1]
    exact Nat.zero_le 1
  · rw [h.1]
    exact Nat.le_refl 1
  · rw [h.1]
    exact Nat.le_refl 1
  · rw [h.1]
    exact Nat.le_refl 1
  · rw [h.1]
    exact Nat.le_refl 1
  · obtain ⟨_, _, _, he, _⟩ := h
    rw [he]
    exact Nat.le_refl 1
  all_goals
    next hp =>
    rw [hp] at hr
    simp [Phase.rank] at hr

lemma Outgoing.dialled (h : Outgoing context tape pieces session) (hh : session.Holds)
    (hr : 0 < session.phase.rank) (hd : session.dials ≠ 0) : pieces ≠ [] ∧
      ∃ greeting rest, Greeting.compose context.setup context.now tape = (.ok greeting, rest) := by
  simp only [Outgoing] at h
  simp only [Holds] at hh
  split at h
  · next hp =>
    rw [hp] at hh
    exact absurd hh.1 hd
  · obtain ⟨rfl, _, hc⟩ := h
    exact ⟨List.cons_ne_nil _ _, _, _, hc⟩
  · obtain ⟨rfl, _, hc⟩ := h
    exact ⟨List.cons_ne_nil _ _, _, _, hc⟩
  · obtain ⟨rfl, hc⟩ := h
    exact ⟨List.cons_ne_nil _ _, _, _, hc⟩
  · obtain ⟨rfl, _, _, ⟨_, _, hc, _⟩, _⟩ := h
    exact ⟨List.cons_ne_nil _ _, _, _, hc⟩
  · obtain ⟨_, _, _, rfl, ⟨_, _, hc, _⟩, _⟩ := h
    exact ⟨List.cons_ne_nil _ _, _, _, hc⟩
  · obtain ⟨_, _, _, _, rfl, ⟨_, _, hc, _⟩, _⟩ := h
    exact ⟨List.cons_ne_nil _ _, _, _, hc⟩
  all_goals
    next hp =>
    rw [hp] at hr
    exact absurd hr (Nat.lt_irrefl 0)

structure Known (context : Context) (tape : Tape) (happenings : List Happening) (pieces : List Bytes)
    (read : Bytes) (session : Session) : Prop extends
    HasRead context happenings pieces read session where
  outgoing : Outgoing context tape pieces session
  incoming : Incoming read session
  holds : session.Holds
  room : 0 < session.phase.rank →
    ∀ piece ∈ pieces, piece.length ≤ context.setup.capacities.nearRead

lemma known_of_run (h : Run context (fresh tape dial) happenings session) :
    ∃ pieces read, Known context tape happenings pieces read session := by
  obtain ⟨pieces, he, ho⟩ := tells_of_run h
  obtain ⟨read, hb, hi⟩ := hears_of_run h
  refine ⟨pieces, read, ⟨⟨he, hb⟩, ho, hi, holds_of_run h, ?_⟩⟩
  intro hr piece hm
  rcases nearRead_pos_of_run h hr with hp | hpos
  · simp only [Outgoing, hp] at ho
    rw [ho.1] at hm
    cases hm
  · have hm := List.mem_append_left
      (session.link.near.source.pieces context.setup.capacities.nearRead) hm
    rw [he] at hm
    obtain ⟨chunk, _, hc⟩ := List.mem_flatMap.mp hm
    exact Bytes.length_le_of_mem_cut hpos hc

namespace Known

lemma discarding (h : Known context tape happenings pieces read session)
    (hp : session.phase = .discarding first index reader) :
    session.dials = 1 ∧
      Greeting.compose context.setup context.now tape =
        (.ok session.link.far.sink.taken, session.tape) ∧
      (Record.payloads read).length = index ∧ index < 3 ∧ reader.StandsAt read := by
  obtain ⟨_, ho, hi, hh, _⟩ := h
  simp only [Outgoing, hp] at ho
  simp only [Incoming, hp] at hi
  simp only [Holds, hp] at hh
  exact ⟨hh.1, ho.2, hi.2⟩

lemma tooLong {header : Record.Header} (h : Known context tape happenings pieces read session)
    (hp : session.phase = .discarding first index reader)
    (hr : session.link.far.source.read reader.missing = .got piece source)
    (hf : reader.feed context.setup.capacities.farRecord piece = .tooLong header) :
    (Record.payloads (read ++ piece)).length = index := by
  obtain ⟨_, _, hx, _, hs⟩ := h.discarding hp
  obtain ⟨_, _, hu⟩ := hs.tooLong (Source.length_le_of_read hr) hf
  rw [hu]
  exact hx

lemma last_message {message : Bytes} (h : Known context tape happenings pieces read session)
    (hp : session.phase = .discarding first index reader)
    (hr : session.link.far.source.read reader.missing = .got piece source)
    (hf : reader.feed context.setup.capacities.farRecord piece = .complete message)
    (hlast : ¬ index + 1 < Greeting.serverMessages) :
    (Record.payloads (read ++ piece)).length = 3 ∧ (Record.split (read ++ piece)).2 = [] := by
  obtain ⟨_, _, hx, hlt, hs⟩ := h.discarding hp
  obtain ⟨hs', hu⟩ := hs.complete (Source.length_le_of_read hr) hf
  refine ⟨?_, hs'⟩
  rw [hu, List.length_append, hx, List.length_singleton]
  simp only [Greeting.serverMessages] at hlast
  omega

end Known

end Camouflage.Session

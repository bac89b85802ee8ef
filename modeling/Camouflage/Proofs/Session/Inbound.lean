import Camouflage.Proofs.Relay.Accounts
import Camouflage.Proofs.Session.Turn
import Mathlib.Data.List.Infix

namespace Camouflage

namespace Session

open Greeting (serverMessages)

variable {context : Context} {arrived read : Bytes} {session session' : Session}

def unwrapping (session : Session) : Bytes :=
  match session.phase with
  | .relaying flow => flow.inbound.left
  | _ => []

def IsDeaf (session : Session) : Prop :=
  match session.phase with
  | .empty | .failed _ | .ended _ _ => True
  | .relaying flow => flow.inbound = .ended
  | _ => False

def Incoming (read : Bytes) (session : Session) : Prop :=
  let taken := session.link.near.sink.taken
  match session.phase with
  | .awaitingData | .dialing _ _ | .greeting _ _ _ => taken = [] ∧ read = []
  | .discarding _ index reader =>
    taken = [] ∧ (Record.payloads read).length = index ∧ index < serverMessages ∧ reader.StandsAt read
  | .replying _ _ | .forwarding _ =>
    taken = [] ∧ (Record.payloads read).length = serverMessages ∧ Record.Reader.start.StandsAt read
  | .relaying flow =>
    serverMessages ≤ (Record.payloads read).length ∧
      (Relay.inboundLane ⟨session.link, flow⟩).Stands read ∧
      (Relay.inboundLane ⟨session.link, flow⟩).Accounts ((Record.payloads read).drop serverMessages)
  | .empty | .failed _ | .ended _ _ =>
    taken <+: ((Record.payloads read).drop serverMessages).flatten

lemma Incoming.keep (h : Incoming read session) (hp : session'.phase = session.phase)
    (ht : session'.link.near.sink.taken = session.link.near.sink.taken) : Incoming read session' := by
  simp only [Incoming, Relay.Inbound.Lane.Accounts, Relay.Inbound.Lane.Stands, Relay.inboundLane, hp,
    ht] at h ⊢
  exact h

lemma Incoming.before (h : Incoming read session) (hr : 1 < session.phase.rank) :
    session.link.near.sink.taken = [] ∧ (Record.payloads read).length ≤ serverMessages := by
  simp only [Incoming] at h
  split at h
  · exact ⟨h.1, by simp [h.2]⟩
  · exact ⟨h.1, by simp [h.2]⟩
  · exact ⟨h.1, by simp [h.2]⟩
  · exact ⟨h.1, h.2.1 ▸ Nat.le_of_lt h.2.2.1⟩
  · exact ⟨h.1, Nat.le_of_eq h.2.1⟩
  · exact ⟨h.1, Nat.le_of_eq h.2.1⟩
  all_goals
    next hp =>
    rw [hp] at hr
    simp [Phase.rank] at hr

lemma Incoming.whole (h : Incoming read session) (hd : ¬ session.IsDeaf) :
    session.link.near.sink.taken ++ session.unwrapping =
      ((Record.payloads read).drop serverMessages).flatten := by
  by_cases hr : 1 < session.phase.rank
  · obtain ⟨ht, hl⟩ := h.before hr
    rw [ht, List.drop_of_length_le hl]
    simp only [unwrapping]
    split
    · next hp =>
      rw [hp] at hr
      simp [Phase.rank] at hr
    · rfl
  · cases hp : session.phase with
    | relaying flow =>
      simp only [Incoming, hp] at h
      simp only [IsDeaf, hp] at hd
      simp only [unwrapping, hp]
      exact h.2.2.taken_append hd
    | empty => simp [IsDeaf, hp] at hd
    | failed _ => simp [IsDeaf, hp] at hd
    | ended _ _ => simp [IsDeaf, hp] at hd
    | _ => simp [Phase.rank, hp] at hr

lemma Incoming.sent (h : Incoming read session) :
    session.link.near.sink.taken <+: ((Record.payloads read).drop serverMessages).flatten := by
  by_cases hd : session.IsDeaf
  · simp only [Incoming] at h
    simp only [IsDeaf] at hd
    split at hd
    · next hp => simpa [hp] using h
    · next hp => simpa [hp] using h
    · next hp => simpa [hp] using h
    · next hp =>
      simp only [hp] at h
      simpa [Relay.inboundLane] using h.2.2.stopped.isPrefix
    · exact hd.elim
  · rw [← h.whole hd]
    exact List.prefix_append _ _

lemma incoming_of_rank (hr : session.phase.rank = 0) :
    Incoming read session ↔
      session.link.near.sink.taken <+: ((Record.payloads read).drop serverMessages).flatten := by
  simp only [Incoming]
  split
  all_goals first
    | exact Iff.rfl
    | next hp =>
      rw [hp] at hr
      cases hr

/-- The session has read the first of the bytes that arrived from the far side, and the others are
there to read. -/
def Hears (arrived : Bytes) (session : Session) : Prop :=
  ∃ read, read ++ session.link.far.source.bytes = arrived ∧ Incoming read session

lemma Hears.over (h : Hears arrived session)
    (hs : session'.link.far.source = session.link.far.source)
    (ht : session'.link.near.sink = session.link.near.sink) (hr : session'.phase.rank = 0) :
    Hears arrived session' := by
  obtain ⟨read, hb, hi⟩ := h
  rw [← hs] at hb
  have hs := hi.sent
  rw [← ht] at hs
  exact ⟨read, hb, (incoming_of_rank hr).mpr hs⟩

lemma Hears.fault {stage : Stage} {error : IoError} (h : Hears arrived session)
    (hf : Fault context session stage error session') :
    Hears arrived (session'.fail stage error) := by
  have hs := far_source_fail session' stage error
  have ht := near_sink_fail session' stage error
  obtain ⟨read, hb, hi⟩ := h
  have hn := (hi.before hf.rank).1
  have hread : ∀ read', read' ++ session'.link.far.source.bytes = arrived →
      session'.link.near.sink = session.link.near.sink → Hears arrived (session'.fail stage error) := by
    intro read' hb' hk
    refine ⟨read', by rw [hs]; exact hb', (incoming_of_rank rfl).mpr ?_⟩
    rw [ht, hk, hn]
    exact List.nil_prefix
  cases hf with
  | tooLong _ hr _ =>
    rw [Source.bytes_of_read hr, ← List.append_assoc] at hb
    exact hread _ hb rfl
  | composeReply _ hr _ _ _ =>
    rw [Source.bytes_of_read hr, ← List.append_assoc] at hb
    exact hread _ hb rfl
  | _ => exact hread read hb rfl

lemma Hears.write {stage : Stage} {left rest : Bytes} {again : Bytes → Phase} {sink : Sink}
    (h : Hears arrived session) (hs : session.phase.Sends context stage left again) :
    Hears arrived { session.wroteFar sink with phase := again rest } := by
  obtain ⟨read, hb, hi⟩ := h
  refine ⟨read, hb, ?_⟩
  cases hs with
  | greeting hp =>
    simp only [Incoming, hp] at hi
    exact hi
  | reply hp =>
    simp only [Incoming, hp] at hi
    exact hi
  | first hp =>
    simp only [Incoming, hp] at hi
    exact hi

lemma Hears.relay {flow : Relay.Flow} {relay : Relay} (h : Hears arrived session)
    (hp : session.phase = .relaying flow)
    (ht : Relay.Turn context.setup.capacities ⟨session.link, flow⟩ relay) :
    Hears arrived (session.relayed relay flow) := by
  obtain ⟨read, hb, hi⟩ := h
  simp only [Incoming, hp] at hi
  obtain ⟨read', hb', hi'⟩ := Relay.inbound_follows_of_turn ht ⟨read, hb, hi⟩
  have hr : Hears arrived { session with link := relay.link, phase := .relaying relay.flow } :=
    ⟨read', hb', hi'⟩
  have hl := link_relayed session relay flow
  rcases phase_relayed session relay flow with ⟨_, hp'⟩ | ⟨_, hp'⟩
  · refine ⟨read', by rw [hl]; exact hb', ?_⟩
    simp only [Incoming, hp', hl]
    exact hi'
  · exact hr.over (by rw [hl]) (by rw [hl]) (by rw [hp']; rfl)

lemma Hears.turn (h : Hears arrived session) (ht : Turn context session session') :
    Hears arrived session' := by
  cases ht with
  | closeEmpty _ _ => exact h.over (by simp) (by simp) rfl
  | dial hp _ _ =>
    obtain ⟨read, hb, hi⟩ := h
    simp only [Incoming, hp] at hi
    exact ⟨read, hb, hi⟩
  | connect hp _ =>
    obtain ⟨read, hb, hi⟩ := h
    simp only [Incoming, hp] at hi
    exact ⟨read, hb, hi⟩
  | write hs _ _ => exact h.write hs
  | greet hp _ =>
    obtain ⟨read, hb, hi⟩ := h
    simp only [Incoming, hp] at hi
    obtain ⟨ht, rfl⟩ := hi
    refine ⟨[], hb, ht, ?_, by decide, ?_⟩
    · rw [Record.payloads_nil]
      rfl
    · exact Record.Reader.standsAt_start.mpr (by rw [Record.split_nil])
  | read hp hr hf =>
    obtain ⟨read, hb, hi⟩ := h
    simp only [Incoming, hp] at hi
    obtain ⟨ht, hl, hi, hs⟩ := hi
    obtain ⟨hs, hu⟩ := hs.incomplete (Source.length_le_of_read hr) hf
    rw [Source.bytes_of_read hr, ← List.append_assoc] at hb
    exact ⟨_, hb, ht, by rw [hu]; exact hl, hi, hs⟩
  | discard hp hr hf hlt =>
    obtain ⟨read, hb, hi⟩ := h
    simp only [Incoming, hp] at hi
    obtain ⟨ht, hl, _, hs⟩ := hi
    obtain ⟨hs, hu⟩ := hs.complete (Source.length_le_of_read hr) hf
    rw [Source.bytes_of_read hr, ← List.append_assoc] at hb
    refine ⟨_, hb, ht, ?_, hlt, hs⟩
    rw [hu, List.length_append, hl]
    rfl
  | reply hp hr hf hlt _ =>
    obtain ⟨read, hb, hi⟩ := h
    simp only [Incoming, hp] at hi
    obtain ⟨ht, hl, hi, hs⟩ := hi
    obtain ⟨hs, hu⟩ := hs.complete (Source.length_le_of_read hr) hf
    rw [Source.bytes_of_read hr, ← List.append_assoc] at hb
    refine ⟨_, hb, ht, ?_, hs⟩
    rw [hu, List.length_append, hl, List.length_singleton]
    omega
  | forward hp _ =>
    obtain ⟨read, hb, hi⟩ := h
    simp only [Incoming, hp] at hi
    exact ⟨read, hb, hi⟩
  | establish hp _ =>
    -- the relay's reader starts where the last message ended
    obtain ⟨read, hb, hi⟩ := h
    simp only [Incoming, hp] at hi
    obtain ⟨ht, hl, hs⟩ := hi
    refine ⟨read, hb, Nat.le_of_eq hl.symm, hs, ?_⟩
    rw [List.drop_of_length_le (Nat.le_of_eq hl)]
    exact ⟨ht, rfl⟩
  | relay hp ht => exact h.relay hp ht
  | fail hf => exact h.fault hf

variable {tape : Tape} {dial : Option DialResult} {happenings : List Happening}

lemma hears_of_run (h : Run context (fresh tape dial) happenings session) :
    Hears (happenings.flatMap (Happening.arrived .far)).flatten session := by
  induction h with
  | start => exact ⟨[], rfl, rfl, rfl⟩
  | step move _ hs ih => exact ih.turn (turn_of_step hs)
  | @notice _ session happening _ ih =>
    obtain ⟨read, hb, hi⟩ := ih
    refine ⟨read, ?_, ?_⟩
    · have hc := chunks_notice session happening .far
      simp only [Link.on] at hc
      rw [List.flatMap_append, List.flatten_append, ← hb, Source.bytes, hc, List.flatten_append,
        List.append_assoc, List.flatMap_singleton]
      rfl
    · have ht := taken_notice session happening .near
      cases happening <;> exact hi.keep rfl ht

/-- What the near side has taken are the first bytes of the payloads behind the server's messages.
While the session may write there, all payloads of the records that it has read are taken but for
what is left of the last one. -/
theorem inbound_payloads (h : Run context (fresh tape dial) happenings session) :
    session.link.near.sink.taken <+:
      ((Record.payloads (happenings.flatMap (Happening.arrived .far)).flatten).drop 3).flatten ∧
    ∃ read,
      read ++ session.link.far.source.bytes =
        (happenings.flatMap (Happening.arrived .far)).flatten ∧
      session.link.near.sink.taken <+: ((Record.payloads read).drop 3).flatten ∧
      (¬ session.IsDeaf → session.link.near.sink.taken ++ session.unwrapping =
        ((Record.payloads read).drop 3).flatten) := by
  obtain ⟨read, hb, hi⟩ := hears_of_run h
  refine ⟨?_, read, hb, hi.sent, hi.whole⟩
  rw [← hb]
  have hp := Record.payloads_prefix read session.link.far.source.bytes
  exact hi.sent.trans (hp.drop 3).flatten

theorem inbound_payload_in_one_chunk : ∃ session,
    Run .narrow (fresh (List.replicate 92 0) (some .connected)) [.link (.arrive .near [[1]]),
      .link (.arrive .far [[0x16, 3, 3, 0, 1, 9, 0x14, 3, 3, 0, 1, 1, 0x16, 3, 3, 0, 0, 0x17, 3, 3, 0, 2,
        7, 8, 0x17, 3]])] session ∧
    session.link.far.source.bytes = [] ∧ session.link.near.sink.taken = [7, 8] := by
  obtain ⟨session, hr, hb, hl⟩ : ∃ session, Run .narrow (fresh (List.replicate 92 0) (some .connected))
      [.link (.arrive .near [[1]]),
        .link (.arrive .far [[0x16, 3, 3, 0, 1, 9, 0x14, 3, 3, 0, 1, 1, 0x16, 3, 3, 0, 0, 0x17, 3, 3, 0,
          2, 7, 8, 0x17, 3]])] session ∧
      session.link.far.source.bytes = [] ∧ session.link.near.sink.taken.length = 2 :=
    ⟨_, (Run.notice _ (.notice _ .start)).trans (run_advance _ 30 _), by decide +kernel,
      by decide +kernel⟩
  have hp := (inbound_payloads hr).1
  have hs : ((Record.payloads [0x16, 3, 3, 0, 1, 9, 0x14, 3, 3, 0, 1, 1, 0x16, 3, 3, 0, 0, 0x17, 3, 3, 0,
      2, 7, 8, 0x17, 3]).drop 3).flatten = [7, 8] := by decide +kernel
  have he : session.link.near.sink.taken <+: [7, 8] := by
    rw [← hs]
    exact hp
  exact ⟨session, hr, hb, he.eq_of_length hl⟩

end Session

end Camouflage

import Camouflage.Proofs.Session.Reading

/-! What a session does not do before its time: the dialer is called for first bytes only, the far side
gets nothing behind the greeting before the server's messages are read, and the near side gets nothing
before the far side has its first record. -/

namespace Camouflage.Session

variable {context : Context} {tape : Tape} {dial : Option DialResult} {pieces : List Bytes}
  {read : Bytes} {session session' : Session} {happenings : List Happening}

structure Shakes (context : Context) (tape : Tape) (pieces : List Bytes) (read : Bytes)
    (session : Session) : Prop where
  near_taken : session.link.near.sink.taken = []
  pieces_le : pieces.length ≤ 1
  room : ∀ piece ∈ pieces, piece.length ≤ context.setup.capacities.nearRead
  payloads_le : (Record.payloads read).length ≤ 3
  boundary : (Record.payloads read).length = 3 → (Record.split read).2 = []
  greeting : (Record.payloads read).length < 3 → session.link.far.sink.taken = [] ∨
    ∃ greeting rest, Greeting.compose context.setup context.now tape = (.ok greeting, rest) ∧
      session.link.far.sink.taken <+: greeting

def Shook (context : Context) (tape : Tape) (pieces : List Bytes) (read : Bytes)
    (session : Session) : Prop :=
  3 ≤ (Record.payloads read).length ∧
    ∃ first rest greeting reply, pieces = first :: rest ∧ Composed context tape greeting reply ∧
      greeting ++ reply ++ Relay.framed first <+: session.link.far.sink.taken

structure Gated (context : Context) (tape : Tape) (pieces : List Bytes) (read : Bytes)
    (session : Session) : Prop where
  dialled : session.dials ≠ 0 → pieces ≠ [] ∧
    ∃ greeting rest, Greeting.compose context.setup context.now tape = (.ok greeting, rest)
  shakes : ¬ session.HasRelay → Shakes context tape pieces read session
  shook : session.HasRelay → Shook context tape pieces read session

lemma shakes_of_rank (ho : Outgoing context tape pieces session) (hi : Incoming read session)
    (hm : ∀ piece ∈ pieces, piece.length ≤ context.setup.capacities.nearRead)
    (hr : 1 < session.phase.rank) : Shakes context tape pieces read session := by
  obtain ⟨hn, hl⟩ := hi.before hr
  have hone := ho.pieces_le hr
  simp only [Outgoing] at ho
  simp only [Incoming] at hi
  split at ho
  · next hp =>
    rw [hp] at hi
    obtain ⟨rfl, _, ht⟩ := ho
    obtain ⟨_, rfl⟩ := hi
    exact ⟨hn, hone, hm, hl, fun _ => by rw [Record.split_nil], fun _ => Or.inl ht⟩
  · next hp =>
    rw [hp] at hi
    obtain ⟨rfl, ht, _⟩ := ho
    obtain ⟨_, rfl⟩ := hi
    exact ⟨hn, hone, hm, hl, fun _ => by rw [Record.split_nil], fun _ => Or.inl ht⟩
  · next hp =>
    rw [hp] at hi
    obtain ⟨rfl, rfl, hc⟩ := ho
    obtain ⟨_, rfl⟩ := hi
    exact ⟨hn, hone, hm, hl, fun _ => by rw [Record.split_nil],
      fun _ => Or.inr ⟨_, _, hc, List.prefix_append _ _⟩⟩
  · next hp =>
    rw [hp] at hi
    obtain ⟨rfl, hc⟩ := ho
    obtain ⟨_, rfl, hlt, _⟩ := hi
    exact ⟨hn, hone, hm, hl, fun h => absurd h (Nat.ne_of_lt hlt),
      fun _ => Or.inr ⟨_, _, hc, List.prefix_rfl⟩⟩
  · next hp =>
    rw [hp] at hi
    obtain ⟨rfl, _⟩ := ho
    obtain ⟨_, he, hs⟩ := hi
    exact ⟨hn, hone, hm, hl, fun _ => hs, fun h => absurd he (Nat.ne_of_lt h)⟩
  · next hp =>
    rw [hp] at hi
    obtain ⟨_, _, _, rfl, _⟩ := ho
    obtain ⟨_, he, hs⟩ := hi
    exact ⟨hn, hone, hm, hl, fun _ => hs, fun h => absurd he (Nat.ne_of_lt h)⟩
  all_goals
    next hp =>
    rw [hp] at hr
    simp [Phase.rank] at hr

lemma shook_of_relaying {flow : Relay.Flow} (hp : session.phase = .relaying flow)
    (ho : Outgoing context tape pieces session) (hi : Incoming read session) :
    Shook context tape pieces read session := by
  simp only [Outgoing, hp] at ho
  simp only [Incoming, hp] at hi
  obtain ⟨first, units, greeting, reply, he, hc, ha⟩ := ho
  exact ⟨hi.1, first, units, greeting, reply, he, hc, ha.stopped.before_isPrefix⟩

lemma Known.shakes (h : Known context tape happenings pieces read session)
    (hr : 1 < session.phase.rank) : Shakes context tape pieces read session :=
  shakes_of_rank h.outgoing h.incoming (h.room (Nat.lt_trans Nat.one_pos hr)) hr

lemma Known.gated (h : Known context tape happenings pieces read session)
    (hr : 0 < session.phase.rank) : Gated context tape pieces read session := by
  refine ⟨h.outgoing.dialled h.holds hr, ?_, ?_⟩
  · intro hn
    exact h.shakes (one_lt_rank hn hr)
  · intro hs
    simp only [HasRelay] at hs
    split at hs
    · next hp => exact shook_of_relaying hp h.outgoing h.incoming
    · next hp =>
      rw [hp] at hr
      exact absurd hr (Nat.lt_irrefl 0)
    · exact hs.elim

def Gates (context : Context) (tape : Tape) (happenings : List Happening) (session : Session) : Prop :=
  ∃ pieces read, HasRead context happenings pieces read session ∧
    Gated context tape pieces read session

lemma Shakes.over (h : Shakes context tape pieces read session)
    (hn : session'.link.near.sink.taken = session.link.near.sink.taken)
    (hf : session'.link.far.sink.taken = session.link.far.sink.taken) :
    Shakes context tape pieces read session' where
  near_taken := hn.trans h.near_taken
  pieces_le := h.pieces_le
  room := h.room
  payloads_le := h.payloads_le
  boundary := h.boundary
  greeting hl := by
    rw [hf]
    exact h.greeting hl

lemma gated_of_fault {stage : Stage} {error : IoError} {read' : Bytes}
    (hd : session'.dials = session.dials) (hg : Gated context tape pieces read session)
    (hs : Shakes context tape pieces read' (session'.fail stage error)) :
    Gated context tape pieces read' (session'.fail stage error) := by
  refine ⟨?_, fun _ => hs, fun h => h.elim⟩
  intro hn
  exact hg.dialled (hd ▸ hn)

lemma gates_of_fault {stage : Stage} {error : IoError}
    (h : Known context tape happenings pieces read session)
    (hf : Fault context session stage error session') :
    Gates context tape happenings (session'.fail stage error) := by
  have hs := h.shakes hf.rank
  have hg := h.gated (Nat.lt_trans Nat.one_pos hf.rank)
  have hd := hf.dials
  have hnear := congrArg Sink.taken (near_sink_fail session' stage error)
  have hfar := congrArg Sink.taken (far_sink_fail session' stage error)
  have hn := near_source_fail session' stage error
  have hb := far_source_fail session' stage error
  cases hf with
  | @compose first source error tape' hp hr hc =>
    have ho := h.outgoing
    have hh := h.holds
    simp only [Outgoing, hp] at ho
    simp only [Holds, hp] at hh
    obtain ⟨rfl, _, ht⟩ := ho
    refine ⟨[first], read, h.read_near hr hn hb, ?_, fun _ => ?_, fun h => h.elim⟩
    · intro hne
      exact absurd (hd.trans hh.1) hne
    · have hroom : ∀ piece ∈ [first], piece.length ≤ context.setup.capacities.nearRead := by
        intro piece hmem
        rw [List.mem_singleton.mp hmem]
        exact Source.length_le_of_read hr
      exact ⟨hnear.trans hs.near_taken, Nat.le_refl 1, hroom, hs.payloads_le, hs.boundary,
        fun _ => Or.inl (hfar.trans ht)⟩
  | @tooLong first piece index reader source header hp hr hl =>
    have hx := h.tooLong hp hr hl
    obtain ⟨_, _, hold, hlt, _⟩ := h.discarding hp
    refine ⟨pieces, read ++ piece, h.read_far hr hn hb, gated_of_fault hd hg ?_⟩
    refine ⟨hnear.trans hs.near_taken, hs.pieces_le, hs.room, by omega, fun _ => by omega, fun _ => ?_⟩
    rw [hfar]
    exact hs.greeting (by omega)
  | @composeReply first piece message index reader source error tape' hp hr hf hlast hc =>
    obtain ⟨hx, hrest⟩ := h.last_message hp hr hf hlast
    refine ⟨pieces, read ++ piece, h.read_far hr hn hb, gated_of_fault hd hg ?_⟩
    exact ⟨hnear.trans hs.near_taken, hs.pieces_le, hs.room, Nat.le_of_eq hx, fun _ => hrest,
      fun hl => absurd hx (Nat.ne_of_lt hl)⟩
  | _ => exact ⟨pieces, read, h.same hn hb, gated_of_fault hd hg (hs.over hnear hfar)⟩

lemma gates_of_relay {flow : Relay.Flow} {relay : Relay}
    (h : Known context tape happenings pieces read session) (hp : session.phase = .relaying flow)
    (ht : Relay.Turn context.setup.capacities ⟨session.link, flow⟩ relay) :
    Gates context tape happenings (session.relayed relay flow) := by
  obtain ⟨⟨he, hb⟩, ho, hi, _, _⟩ := h
  simp only [Outgoing, hp] at ho
  simp only [Incoming, hp] at hi
  obtain ⟨first, units, greeting, reply, rfl, hc, ha⟩ := ho
  obtain ⟨units', hu, ha'⟩ := Relay.outbound_follows_of_turn ht ⟨units, rfl, ha⟩
  obtain ⟨read', hb', hi'⟩ := Relay.inbound_follows_of_turn ht ⟨read, hb, hi⟩
  have hw := ha'.stopped.before_isPrefix
  have hl := link_relayed session relay flow
  have hm : ∃ greeting rest,
      Greeting.compose context.setup context.now tape = (.ok greeting, rest) := by
    obtain ⟨middle, _, hm, _⟩ := hc
    exact ⟨_, middle, hm⟩
  refine ⟨first :: units', read', ⟨?_, ?_⟩, ?_, ?_, ?_⟩
  · rw [hl, ← he]
    exact congrArg (first :: ·) hu
  · rw [hl]
    exact hb'
  · intro _
    exact ⟨List.cons_ne_nil _ _, hm⟩
  · intro hn
    exact absurd (hasRelay_relayed relay flow) hn
  · intro _
    refine ⟨hi'.1, first, units', greeting, reply, rfl, hc, ?_⟩
    rw [hl]
    exact hw

lemma gates_of_last_turn (h : Known context tape happenings pieces read session)
    (ht : Turn context session session') (hr : session'.phase.rank = 0) :
    Gates context tape happenings session' := by
  cases ht with
  | closeEmpty hp _ =>
    have hs := h.shakes (by simp [hp, Phase.rank])
    have hh := h.holds
    simp only [Holds, hp] at hh
    refine ⟨pieces, read, h.same (by simp) (by simp), ?_, fun _ => ?_, fun h => h.elim⟩
    · intro hd
      exact absurd hh.1 hd
    · exact hs.over (by simp) (by simp)
  | relay hp ht => exact gates_of_relay h hp ht
  | fail hf => exact gates_of_fault h hf
  | write hs _ _ => cases hs <;> cases hr
  | _ => cases hr

lemma Gates.notice (h : Gates context tape happenings session) (happening : Happening) :
    Gates context tape (happenings ++ [happening]) (session.notice happening) := by
  obtain ⟨pieces, read, hread, hg⟩ := h
  have hn := taken_notice session happening .near
  have hf := taken_notice session happening .far
  have hd : (session.notice happening).dials = session.dials := by cases happening <;> rfl
  have hr : (session.notice happening).HasRelay = session.HasRelay := by cases happening <;> rfl
  refine ⟨pieces, read, hread.queue fun side => ?_, ?_, ?_, ?_⟩
  · rw [List.flatMap_singleton]
    exact chunks_notice session happening side
  · rw [hd]
    exact hg.dialled
  · intro hno
    rw [hr] at hno
    exact (hg.shakes hno).over hn hf
  · intro hs
    rw [hr] at hs
    obtain ⟨hl, first, rest, greeting, reply, he, hc, hw⟩ := hg.shook hs
    refine ⟨hl, first, rest, greeting, reply, he, hc, ?_⟩
    rw [show (session.notice happening).link.far.sink.taken = _ from hf]
    exact hw

lemma gates_of_run (h : Run context (fresh tape dial) happenings session) :
    Gates context tape happenings session := by
  induction h with
  | start =>
    obtain ⟨pieces, read, hk⟩ := known_of_run (.start : Run context (fresh tape dial) [] _)
    exact ⟨pieces, read, hk.toHasRead, hk.gated (Nat.succ_pos 6)⟩
  | @step happenings before after move h hs _ =>
    -- what was read before the last turn of all does not show in the phase behind it
    rcases Nat.eq_zero_or_pos after.phase.rank with hz | hr
    · obtain ⟨pieces, read, hk⟩ := known_of_run h
      exact gates_of_last_turn hk (turn_of_step hs) hz
    · obtain ⟨pieces, read, hk⟩ := known_of_run (.step move h hs)
      exact ⟨pieces, read, hk.toHasRead, hk.gated hr⟩
  | notice happening _ ih => exact ih.notice happening

lemma Gated.early (h : Gated context tape pieces read session)
    (hl : (Record.payloads read).length < 3) : Shakes context tape pieces read session := by
  apply h.shakes
  intro hs
  exact absurd (h.shook hs).1 (Nat.not_le_of_lt hl)

/-- The dialer is called once at most, for first bytes that were read and with a greeting composed.
Until three whole records of the far side are read, and no byte behind them, no second read is taken
from the near side and the far side gets no more than the greeting; the near side gets nothing before
the far side has the reply and the first record. A near side that ends without a byte makes the session
end empty, without a call of the dialer, even where it can not be shut down. -/
theorem session_gated (h : Run context (fresh tape dial) happenings session) :
    (∃ pieces read,
      pieces ++ session.link.near.source.pieces context.setup.capacities.nearRead =
        (happenings.flatMap (Happening.arrived .near)).flatMap
          (Bytes.cut context.setup.capacities.nearRead) ∧
      read ++ session.link.far.source.bytes =
        (happenings.flatMap (Happening.arrived .far)).flatten ∧
      (∀ piece ∈ pieces, piece ≠ []) ∧
      session.dials ≤ 1 ∧
      (session.dials ≠ 0 → pieces ≠ [] ∧
        ∃ greeting rest, Greeting.compose context.setup context.now tape = (.ok greeting, rest)) ∧
      ((Record.payloads read).length < 3 →
        pieces.length ≤ 1 ∧
        (∀ piece ∈ pieces, piece.length ≤ context.setup.capacities.nearRead) ∧
        (session.link.far.sink.taken = [] ∨ ∃ greeting rest,
          Greeting.compose context.setup context.now tape = (.ok greeting, rest) ∧
          session.link.far.sink.taken <+: greeting)) ∧
      (¬ session.HasRelay → (Record.payloads read).length ≤ 3 ∧
        ((Record.payloads read).length = 3 → (Record.split read).2 = [])) ∧
      (session.link.near.sink.taken ≠ [] → ∃ first rest greeting reply, pieces = first :: rest ∧
        Composed context tape greeting reply ∧
        greeting ++ reply ++ Relay.framed first <+: session.link.far.sink.taken)) ∧
    (session.phase = .empty →
      session.dials = 0 ∧ session.link.near.tenure = .released ∧
      (session.link.near.isShut = true ∨
        ∃ error, .link (.refuseShut .near error) ∈ happenings ∧ .shutFailed error ∈ session.log) ∧
      ∀ later session', Run context session later session' →
        session'.phase = .empty ∧ session'.dials = 0) ∧
    ((happenings.flatMap (Happening.arrived .near)).flatten = [] →
      .link (.finish .near .closed) ∈ happenings →
      (∀ error, .link (.finish .near (.failed error)) ∉ happenings) →
      session.phase = .empty ∨ session.phase = .awaitingData ∧
        ∃ session', step context .proceed session = some session' ∧ session'.phase = .empty) := by
  obtain ⟨pieces, read, ⟨he, hb⟩, hg⟩ := gates_of_run h
  have hh := holds_of_run h
  refine ⟨⟨pieces, read, he, hb, ?_, hh.dials_le, hg.dialled, ?_, ?_, ?_⟩, ?_, empty_of_run h⟩
  · intro piece hm
    have hm := List.mem_append_left
      (session.link.near.source.pieces context.setup.capacities.nearRead) hm
    rw [he] at hm
    obtain ⟨chunk, _, hc⟩ := List.mem_flatMap.mp hm
    exact Bytes.ne_nil_of_mem_cut hc
  · intro hl
    have hs := hg.early hl
    exact ⟨hs.pieces_le, hs.room, hs.greeting hl⟩
  · intro hn
    have hs := hg.shakes hn
    exact ⟨hs.payloads_le, hs.boundary⟩
  · intro hne
    by_cases hs : session.HasRelay
    · exact (hg.shook hs).2
    · exact absurd (hg.shakes hs).near_taken hne
  · intro hp
    have hpos : 0 < (fresh tape dial).phase.rank := Nat.succ_pos 6
    obtain ⟨earlier, later, before, rfl, hr, hq, _, hl⟩ := exists_closeEmpty hpos hp h
    have hbefore := holds_of_run hr
    simp only [Holds, hq] at hbefore
    simp only [Holds, hp] at hh
    have hrest := rests_of_run rfl hl
    obtain ⟨ht, hs⟩ := shut_of_closeEmpty hbefore.2.1
    refine ⟨hh, (hrest.tenure .near).trans ht, ?_, ?_⟩
    · rcases hs with hs | ⟨error, he, hm⟩
      · exact Or.inl ((hrest.isShut .near).trans hs)
      · have hevent := (awaits_of_run hr hq).shutError_mem error he
        rw [← hrest.log] at hm
        exact Or.inr ⟨error, List.mem_append_left _ hevent, hm⟩
    · intro later' session' hlater
      have hrest' := rests_of_run (by rw [hp]; rfl) hlater
      exact ⟨hrest'.phase.trans hp, hrest'.dials.trans hh⟩

theorem second_read_waits : ∃ session,
    Run .narrow (fresh (List.replicate 92 0) (some .connected))
      [.link (.arrive .near [[1, 2, 3], [4]]),
        .link (.arrive .far [[0x16, 3, 3, 0, 1, 9, 0x14, 3, 3], [0, 1, 1, 0x16, 3, 3, 0]])] session ∧
    session.dials = 1 ∧ session.link.far.source.bytes = [] ∧
    session.link.near.source.pieces 2 = [[3], [4]] ∧
    ∃ greeting rest, Greeting.compose Context.narrow.setup Context.narrow.now
        (List.replicate 92 0) = (.ok greeting, rest) ∧
      session.link.far.sink.taken <+: greeting := by
  obtain ⟨session, hr, hd, hb, hf⟩ : ∃ session,
      Run .narrow (fresh (List.replicate 92 0) (some .connected))
        [.link (.arrive .near [[1, 2, 3], [4]]),
          .link (.arrive .far [[0x16, 3, 3, 0, 1, 9, 0x14, 3, 3], [0, 1, 1, 0x16, 3, 3, 0]])] session ∧
      session.dials = 1 ∧ session.link.far.source.bytes = [] ∧ session.link.far.sink.taken ≠ [] :=
    ⟨_, (Run.notice _ (.notice _ .start)).trans (run_advance _ 30 _), by decide +kernel,
      by decide +kernel, by decide +kernel⟩
  obtain ⟨⟨pieces, read, he, hread, _, _, hdialled, hearly, _⟩, _⟩ := session_gated hr
  rw [hb, List.append_nil] at hread
  have hl : (Record.payloads read).length < 3 := by
    rw [hread]
    decide +kernel
  obtain ⟨hone, _, hgreeting⟩ := hearly hl
  have hne := (hdialled (by omega)).1
  obtain ⟨first, rfl⟩ := List.length_eq_one_iff.mp
    (Nat.le_antisymm hone (List.length_pos_iff.mpr hne))
  have hcut : [first] ++ session.link.near.source.pieces 2 = [[1, 2], [3], [4]] :=
    he.trans (by decide +kernel)
  exact ⟨session, hr, hd, hb, (List.cons.inj hcut).2, hgreeting.resolve_left hf⟩

end Camouflage.Session

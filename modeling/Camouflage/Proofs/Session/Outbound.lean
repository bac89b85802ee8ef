import Camouflage.Proofs.Relay.Accounts
import Camouflage.Proofs.Session.Turn
import Mathlib.Data.List.Infix

namespace Camouflage.Session

variable {context : Context} {tape middle rest : Tape} {greeting reply first : Bytes}
  {pieces expected : List Bytes} {session session' : Session}

/-- The messages for the pieces that are read from the near side. They break off where one can not
be composed. -/
def messages (context : Context) (tape : Tape) (pieces : List Bytes) : List Bytes :=
  if pieces = [] then []
  else
    match Greeting.compose context.setup context.now tape with
    | (.error _, _) => []
    | (.ok greeting, tape) =>
      match Greeting.composeReply tape with
      | (.error _, _) => [greeting]
      | (.ok reply, _) => greeting :: reply :: pieces.map Relay.framed

def Composed (context : Context) (tape : Tape) (greeting reply : Bytes) : Prop :=
  ∃ middle rest, Greeting.compose context.setup context.now tape = (.ok greeting, middle) ∧
    Greeting.composeReply middle = (.ok reply, rest)

lemma messages_of_composed (h : Composed context tape greeting reply) (hp : pieces ≠ []) :
    messages context tape pieces = greeting :: reply :: pieces.map Relay.framed := by
  obtain ⟨middle, rest, hg, hr⟩ := h
  simp only [messages, if_neg hp, hg, hr]

lemma messages_of_greeting
    (h : Greeting.compose context.setup context.now tape = (.ok greeting, middle))
    (hp : pieces ≠ []) : [greeting] <+: messages context tape pieces := by
  simp only [messages, if_neg hp, h]
  split
  · exact List.prefix_rfl
  · exact List.prefix_append [greeting] _

lemma length_of_composeReply (h : Greeting.composeReply tape = (.ok reply, rest)) :
    reply.length = 51 := by
  simp only [Greeting.composeReply] at h
  split at h
  · cases h
  · next finished tape' hd =>
    cases h
    have hf : finished.toList ≠ [] := List.ne_nil_of_length_pos (by simp)
    have hl : finished.toList.length ≤ Record.maxPayload := by simp [Record.maxPayload]
    have hc : Bytes.cut Record.maxPayload finished.toList = [finished.toList] := by
      rw [Bytes.cut, if_neg hf, if_neg (by decide), List.take_of_length_le hl,
        List.drop_of_length_le hl, Bytes.cut_nil]
    have hr : (Record.frame .handshake .tls12 finished.toList).length = 45 := by
      simp [Record.frame, Record.fragments, hc, Record.headerLength]
    have hs : (Record.frame .changeCipherSpec .tls12 [1]).length = 6 := by
      decide +kernel
    rw [List.length_append, hr, hs]

def underway (session : Session) : Bytes :=
  match session.phase with
  | .greeting _ _ left | .replying _ left | .forwarding left => left
  | .relaying flow => flow.outbound.left
  | _ => []

def IsMute (session : Session) : Prop :=
  match session.phase with
  | .empty | .failed _ | .ended _ _ => True
  | .relaying flow => flow.outbound = .ended
  | _ => False

/-- How far a session has come with its messages, once it has read these pieces. -/
def Outgoing (context : Context) (tape : Tape) (pieces : List Bytes) (session : Session) : Prop :=
  let taken := session.link.far.sink.taken
  match session.phase with
  | .awaitingData => pieces = [] ∧ session.tape = tape ∧ taken = []
  | .dialing first greeting =>
    pieces = [first] ∧ taken = [] ∧
      Greeting.compose context.setup context.now tape = (.ok greeting, session.tape)
  | .greeting first greeting left =>
    pieces = [first] ∧ taken ++ left = greeting ∧
      Greeting.compose context.setup context.now tape = (.ok greeting, session.tape)
  | .discarding first _ _ =>
    pieces = [first] ∧ Greeting.compose context.setup context.now tape = (.ok taken, session.tape)
  | .replying first left =>
    pieces = [first] ∧
      ∃ greeting reply, Composed context tape greeting reply ∧ taken ++ left = greeting ++ reply
  | .forwarding left =>
    ∃ first greeting reply, pieces = [first] ∧ Composed context tape greeting reply ∧
      taken ++ left = greeting ++ reply ++ Relay.framed first
  | .relaying flow =>
    ∃ first units greeting reply, pieces = first :: units ∧ Composed context tape greeting reply ∧
      (Relay.outboundLane ⟨session.link, flow⟩).Accounts (greeting ++ reply ++ Relay.framed first) units
  | .empty | .failed _ | .ended _ _ => taken <+: (messages context tape pieces).flatten

lemma Outgoing.keep (h : Outgoing context tape pieces session)
    (hp : session'.phase = session.phase) (hd : session'.tape = session.tape)
    (ht : session'.link.far.sink.taken = session.link.far.sink.taken) :
    Outgoing context tape pieces session' := by
  simp only [Outgoing, Relay.Outbound.Lane.Accounts, Relay.outboundLane, hp, hd, ht] at h ⊢
  exact h

/-- As long as the session may write, no message was cut short, and once the relay runs none is
held back. -/
lemma Outgoing.whole (h : Outgoing context tape pieces session) (hm : ¬ session.IsMute) :
    ∃ begun, begun <+: messages context tape pieces ∧
      session.link.far.sink.taken ++ session.underway = begun.flatten ∧
      ∀ flow, session.phase = .relaying flow → begun = messages context tape pieces := by
  simp only [Outgoing] at h
  simp only [IsMute] at hm
  simp only [underway]
  split at h
  · next hp =>
    obtain ⟨_, _, ht⟩ := h
    exact ⟨[], List.nil_prefix, by simp [hp, ht], by simp [hp]⟩
  · next hp =>
    obtain ⟨_, ht, _⟩ := h
    exact ⟨[], List.nil_prefix, by simp [hp, ht], by simp [hp]⟩
  · next hp =>
    obtain ⟨rfl, ht, hg⟩ := h
    refine ⟨_, messages_of_greeting hg (List.cons_ne_nil _ _), ?_, by simp [hp]⟩
    simpa [hp] using ht
  · next hp =>
    obtain ⟨rfl, hg⟩ := h
    exact ⟨_, messages_of_greeting hg (List.cons_ne_nil _ _), by simp [hp], by simp [hp]⟩
  · next hp =>
    obtain ⟨rfl, greeting, reply, hc, ht⟩ := h
    rw [messages_of_composed hc (List.cons_ne_nil _ _)]
    refine ⟨_, List.prefix_append [greeting, reply] _, ?_, by simp [hp]⟩
    simpa [hp] using ht
  · next hp =>
    obtain ⟨first, greeting, reply, rfl, hc, ht⟩ := h
    rw [messages_of_composed hc (List.cons_ne_nil _ _)]
    refine ⟨_, List.prefix_refl _, ?_, by simp [hp]⟩
    simpa [hp] using ht
  · next flow hp =>
    obtain ⟨first, units, greeting, reply, rfl, hc, ha⟩ := h
    rw [messages_of_composed hc (List.cons_ne_nil _ _)]
    have hl : flow.outbound ≠ .ended := by simpa [hp] using hm
    have ht := ha.taken_append hl
    refine ⟨_, List.prefix_refl _, ?_, fun _ _ => rfl⟩
    simpa [hp, Relay.outboundLane, List.flatMap_def] using ht
  · next hp => simp [hp] at hm
  · next hp => simp [hp] at hm
  · next hp => simp [hp] at hm

lemma Outgoing.sent (h : Outgoing context tape pieces session) :
    session.link.far.sink.taken <+: (messages context tape pieces).flatten := by
  by_cases hm : session.IsMute
  · simp only [Outgoing] at h
    simp only [IsMute] at hm
    split at hm
    · next hp => simpa [hp] using h
    · next hp => simpa [hp] using h
    · next hp => simpa [hp] using h
    · next hp =>
      simp only [hp] at h
      obtain ⟨first, units, greeting, reply, rfl, hc, ha⟩ := h
      rw [messages_of_composed hc (List.cons_ne_nil _ _)]
      simpa [Relay.outboundLane, List.flatMap_def] using ha.stopped.isPrefix
    · exact hm.elim
  · obtain ⟨begun, hb, ht, _⟩ := h.whole hm
    have hp := hb.flatten
    rw [← ht] at hp
    exact (List.prefix_append _ _).trans hp

lemma outgoing_of_rank (hr : session.phase.rank = 0) :
    Outgoing context tape pieces session ↔
      session.link.far.sink.taken <+: (messages context tape pieces).flatten := by
  simp only [Outgoing]
  split
  all_goals first
    | exact Iff.rfl
    | next hp =>
      rw [hp] at hr
      cases hr

def Tells (context : Context) (tape : Tape) (expected : List Bytes) (session : Session) : Prop :=
  ∃ pieces, pieces ++ session.link.near.source.pieces context.setup.capacities.nearRead = expected ∧
    Outgoing context tape pieces session

lemma Tells.over (h : Tells context tape expected session)
    (hs : session'.link.near.source = session.link.near.source)
    (ht : session'.link.far.sink = session.link.far.sink) (hr : session'.phase.rank = 0) :
    Tells context tape expected session' := by
  obtain ⟨pieces, he, ho⟩ := h
  rw [← hs] at he
  have hs := ho.sent
  rw [← ht] at hs
  exact ⟨pieces, he, (outgoing_of_rank hr).mpr hs⟩

lemma Tells.fault {stage : Stage} {error : IoError} (h : Tells context tape expected session)
    (hf : Fault context session stage error session') :
    Tells context tape expected (session'.fail stage error) := by
  have hn := near_source_fail session' stage error
  have hs := far_sink_fail session' stage error
  cases hf with
  | await _ _ => exact h.over hn hs rfl
  | @compose first source error tape' hp hr hc =>
    obtain ⟨pieces, he, ho⟩ := h
    simp only [Outgoing, hp] at ho
    obtain ⟨rfl, rfl, ht⟩ := ho
    rw [(Source.pieces_of_read hr).1] at he
    refine ⟨[first], ?_, (outgoing_of_rank rfl).mpr ?_⟩
    · rw [hn]
      exact he
    · rw [hs]
      change session.link.far.sink.taken <+: _
      rw [ht]
      exact List.nil_prefix
  | dial _ _ => exact h.over hn hs rfl
  | write _ _ => exact h.over hn hs rfl
  | endEarly _ _ => exact h.over hn hs rfl
  | read _ _ => exact h.over hn hs rfl
  | tooLong _ _ _ => exact h.over hn hs rfl
  | composeReply _ _ _ _ _ => exact h.over hn hs rfl

lemma Tells.write {stage : Stage} {left rest : Bytes} {again : Bytes → Phase} {sink : Sink}
    (h : Tells context tape expected session) (hs : session.phase.Sends context stage left again)
    (hw : session.link.far.sink.write left = .took rest sink) :
    Tells context tape expected { session.wroteFar sink with phase := again rest } := by
  obtain ⟨pieces, he, ho⟩ := h
  refine ⟨pieces, he, ?_⟩
  have hw := Sink.taken_of_write hw
  cases hs with
  | greeting hp =>
    simp only [Outgoing, hp] at ho
    obtain ⟨hu, ht, hg⟩ := ho
    exact ⟨hu, hw.trans ht, hg⟩
  | reply hp =>
    simp only [Outgoing, hp] at ho
    obtain ⟨hu, greeting, reply, hc, ht⟩ := ho
    exact ⟨hu, greeting, reply, hc, hw.trans ht⟩
  | first hp =>
    simp only [Outgoing, hp] at ho
    obtain ⟨first, greeting, reply, hu, hc, ht⟩ := ho
    exact ⟨first, greeting, reply, hu, hc, hw.trans ht⟩

lemma Tells.relay {flow : Relay.Flow} {relay : Relay} (h : Tells context tape expected session)
    (hp : session.phase = .relaying flow)
    (ht : Relay.Turn context.setup.capacities ⟨session.link, flow⟩ relay) :
    Tells context tape expected (session.relayed relay flow) := by
  obtain ⟨pieces, he, ho⟩ := h
  simp only [Outgoing, hp] at ho
  obtain ⟨first, units, greeting, reply, rfl, hc, ha⟩ := ho
  obtain ⟨units', hu, ha'⟩ := Relay.outbound_follows_of_turn ht ⟨units, rfl, ha⟩
  have he' : first :: units' ++ relay.link.near.source.pieces context.setup.capacities.nearRead =
      expected := by
    rw [← he]
    exact congrArg (first :: ·) hu
  have hr : Tells context tape expected
      { session with link := relay.link, phase := .relaying relay.flow } :=
    ⟨first :: units', he', first, units', greeting, reply, rfl, hc, ha'⟩
  have hl := link_relayed session relay flow
  rcases phase_relayed session relay flow with ⟨_, hp'⟩ | ⟨_, hp'⟩
  · refine ⟨first :: units', by rw [hl]; exact he', ?_⟩
    simp only [Outgoing, hp', hl]
    exact ⟨first, units', greeting, reply, rfl, hc, ha'⟩
  · exact hr.over (by rw [hl]) (by rw [hl]) (by rw [hp']; rfl)

lemma Tells.turn (h : Tells context tape expected session) (ht : Turn context session session') :
    Tells context tape expected session' := by
  cases ht with
  | closeEmpty _ _ => exact h.over (by simp) (by simp) rfl
  | @dial first greeting source tape' hp hr hc =>
    obtain ⟨pieces, he, ho⟩ := h
    simp only [Outgoing, hp] at ho
    obtain ⟨rfl, rfl, ht⟩ := ho
    rw [(Source.pieces_of_read hr).1] at he
    exact ⟨[first], he, rfl, ht, hc⟩
  | connect hp _ =>
    obtain ⟨pieces, he, ho⟩ := h
    simp only [Outgoing, hp] at ho
    obtain ⟨hu, ht, hg⟩ := ho
    refine ⟨pieces, he, hu, ?_, hg⟩
    change session.link.far.sink.taken ++ _ = _
    rw [ht, List.nil_append]
  | write hs hw _ => exact h.write hs hw
  | greet hp hw =>
    obtain ⟨pieces, he, ho⟩ := h.write (.greeting hp) hw
    obtain ⟨hu, ht, hg⟩ := ho
    rw [List.append_nil] at ht
    exact ⟨pieces, he, hu, ht ▸ hg⟩
  | read hp _ _ =>
    obtain ⟨pieces, he, ho⟩ := h
    simp only [Outgoing, hp] at ho
    exact ⟨pieces, he, ho⟩
  | discard hp _ _ _ =>
    obtain ⟨pieces, he, ho⟩ := h
    simp only [Outgoing, hp] at ho
    exact ⟨pieces, he, ho⟩
  | reply hp _ _ _ hc =>
    obtain ⟨pieces, he, ho⟩ := h
    simp only [Outgoing, hp] at ho
    obtain ⟨hu, hg⟩ := ho
    exact ⟨pieces, he, hu, _, _, ⟨_, _, hg, hc⟩, rfl⟩
  | forward hp hw =>
    obtain ⟨pieces, he, ho⟩ := h.write (.reply hp) hw
    obtain ⟨hu, greeting, reply, hc, ht⟩ := ho
    rw [List.append_nil] at ht
    exact ⟨pieces, he, _, greeting, reply, hu, hc, congrArg (· ++ _) ht⟩
  | establish hp hw =>
    obtain ⟨pieces, he, ho⟩ := h.write (.first hp) hw
    obtain ⟨first, greeting, reply, hu, hc, ht⟩ := ho
    rw [List.append_nil] at ht
    refine ⟨pieces, he, first, [], greeting, reply, hu, hc, ?_⟩
    rw [← ht]
    exact Relay.settled_nil
  | relay hp ht => exact h.relay hp ht
  | fail hf => exact h.fault hf

lemma mute_of_turn (hm : session.IsMute) (h : Turn context session session') :
    session'.IsMute ∧ session'.link.far.sink = session.link.far.sink := by
  rcases h.rank with hr | ⟨flow, relay, hp, ht, rfl⟩
  · simp only [IsMute] at hm
    split at hm
    all_goals first
      | exact hm.elim
      | next hp =>
        rw [hp] at hr
        simp [Phase.rank] at hr
  · simp only [IsMute, hp] at hm
    obtain ⟨hd, hs⟩ := Relay.outbound_silent ht hm
    rw [link_relayed]
    refine ⟨?_, hs⟩
    simp only [IsMute]
    rcases phase_relayed session relay flow with ⟨_, hp'⟩ | ⟨_, hp'⟩
    · rw [hp']
      exact hd
    · rw [hp']
      trivial

variable {happenings later : List Happening} {dial : Option DialResult}

lemma mute_of_run (hm : session.IsMute) (h : Run context session later session') :
    session'.IsMute ∧ session'.link.far.sink.taken = session.link.far.sink.taken := by
  induction h with
  | start => exact ⟨hm, rfl⟩
  | step move _ hs ih =>
    obtain ⟨hm', ht⟩ := mute_of_turn ih.1 (turn_of_step hs)
    rw [ht]
    exact ⟨hm', ih.2⟩
  | @notice _ session'' happening _ ih =>
    refine ⟨?_, ?_⟩
    · cases happening <;> exact ih.1
    · exact (taken_notice session'' happening .far).trans ih.2

def HandsOver (context : Context) (tape : Tape) (session : Session) : Prop :=
  session.phase = .awaitingData ∧ session.tape = tape ∧ session.earlyData = [] ∨
    session.phase ≠ .awaitingData ∧
      (session.earlyData = [] ∨ context.fastOpen = true ∧ ∃ greeting rest,
        Greeting.compose context.setup context.now tape = (.ok greeting, rest) ∧
        session.earlyData = [greeting])

lemma HandsOver.early (h : HandsOver context tape session) :
    session.earlyData = [] ∨ context.fastOpen = true ∧ ∃ greeting rest,
      Greeting.compose context.setup context.now tape = (.ok greeting, rest) ∧
      session.earlyData = [greeting] := by
  rcases h with ⟨_, _, he⟩ | ⟨_, he⟩
  · exact Or.inl he
  · exact he

lemma HandsOver.turn (h : HandsOver context tape session) (ht : Turn context session session') :
    HandsOver context tape session' := by
  have he := h.early
  cases ht with
  | @dial first greeting source tape' hp hr hc =>
    refine Or.inr ⟨nofun, ?_⟩
    rcases h with ⟨_, rfl, hn⟩ | ⟨hp', _⟩
    · rw [hn, List.nil_append]
      by_cases hf : context.fastOpen = true
      · exact Or.inr ⟨hf, greeting, tape', hc, if_pos hf⟩
      · exact Or.inl (if_neg hf)
    · exact absurd hp hp'
  | write hs _ _ =>
    refine Or.inr ⟨?_, he⟩
    cases hs <;> nofun
  | @relay flow relay hp _ =>
    rw [← earlyData_relayed session relay flow] at he
    refine Or.inr ⟨?_, he⟩
    rcases phase_relayed session relay flow with ⟨_, hp'⟩ | ⟨_, hp'⟩ <;> rw [hp'] <;> nofun
  | @fail stage error before hf =>
    rw [← hf.earlyData] at he
    exact Or.inr ⟨nofun, he⟩
  | _ => exact Or.inr ⟨nofun, he⟩

lemma handsOver_of_run (h : Run context (fresh tape dial) happenings session) :
    HandsOver context tape session := by
  induction h with
  | start => exact Or.inl ⟨rfl, rfl, rfl⟩
  | step move _ hs ih => exact ih.turn (turn_of_step hs)
  | notice happening _ ih => cases happening <;> exact ih

lemma tells_of_run (h : Run context (fresh tape dial) happenings session) :
    Tells context tape ((happenings.flatMap (Happening.arrived .near)).flatMap
      (Bytes.cut context.setup.capacities.nearRead)) session := by
  induction h with
  | start => exact ⟨[], rfl, rfl, rfl, rfl⟩
  | step move _ hs ih => exact ih.turn (turn_of_step hs)
  | @notice _ session happening _ ih =>
    obtain ⟨pieces, he, ho⟩ := ih
    refine ⟨pieces, ?_, ?_⟩
    · have hc := chunks_notice session happening .near
      simp only [Link.on] at hc
      rw [List.flatMap_append, List.flatMap_append, ← he, Source.pieces, hc, List.flatMap_append,
        List.append_assoc, List.flatMap_singleton]
      rfl
    · have ht := taken_notice session happening .far
      cases happening <;> exact ho.keep rfl rfl ht

lemma nil_notMem_fragments (h : first ≠ []) : [] ∉ Record.fragments first := by
  intro hm
  exact Record.ne_nil_of_mem_fragments h hm rfl

lemma length_of_messages (h : (messages context tape pieces)[1]? = some reply) :
    reply.length = 51 := by
  simp only [messages] at h
  split at h
  · cases h
  · split at h
    · cases h
    · split at h
      · cases h
      · next hr =>
        cases h
        exact length_of_composeReply hr

/-- What the far side has taken are the first of the messages for the pieces that were read, and no
message is begun before the one in front of it is complete. Once the session can not go on with a
message, it writes nothing more. While the relay runs, all that was read is written, or under way. -/
theorem outbound_wire (h : Run context (fresh tape dial) happenings session) :
    (∃ pieces,
      pieces ++ session.link.near.source.pieces context.setup.capacities.nearRead =
        (happenings.flatMap (Happening.arrived .near)).flatMap
          (Bytes.cut context.setup.capacities.nearRead) ∧
      pieces.flatten ++ session.link.near.source.bytes =
        (happenings.flatMap (Happening.arrived .near)).flatten ∧
      (∀ piece ∈ pieces, piece ≠ [] ∧ [] ∉ Record.fragments piece) ∧
      (∀ reply, (messages context tape pieces)[1]? = some reply → reply.length = 51) ∧
      session.link.far.sink.taken <+: (messages context tape pieces).flatten ∧
      (¬ session.IsMute → ∃ begun, begun <+: messages context tape pieces ∧
        session.link.far.sink.taken ++ session.underway = begun.flatten ∧
        ∀ flow, session.phase = .relaying flow → begun = messages context tape pieces)) ∧
    (session.IsMute → ∀ later session', Run context session later session' →
      session'.IsMute ∧ session'.link.far.sink.taken = session.link.far.sink.taken) ∧
    (session.earlyData = [] ∨ context.fastOpen = true ∧ ∃ greeting rest,
      Greeting.compose context.setup context.now tape = (.ok greeting, rest) ∧
      session.earlyData = [greeting]) := by
  obtain ⟨pieces, he, ho⟩ := tells_of_run h
  have hb := congrArg List.flatten he
  rw [List.flatten_append, Source.flatten_pieces] at hb
  have hc := Source.flatten_pieces context.setup.capacities.nearRead
    ⟨happenings.flatMap (Happening.arrived .near), none⟩
  have hne : ∀ piece ∈ pieces, piece ≠ [] := by
    intro piece hm
    have hm := List.mem_append_left
      (session.link.near.source.pieces context.setup.capacities.nearRead) hm
    rw [he] at hm
    obtain ⟨chunk, _, hp⟩ := List.mem_flatMap.mp hm
    exact Bytes.ne_nil_of_mem_cut hp
  refine ⟨⟨pieces, he, hb.trans hc, ?_, ?_, ho.sent, ho.whole⟩, ?_, (handsOver_of_run h).early⟩
  · intro piece hm
    exact ⟨hne piece hm, nil_notMem_fragments (hne piece hm)⟩
  · intro reply hr
    exact length_of_messages hr
  · intro hm later session' hl
    exact mute_of_run hm hl

theorem outbound_cut_short : ∃ session pieces,
    Run .narrow (fresh (List.replicate 92 0) (some .connected)) [.link (.arrive .near [[1, 2, 3]]),
      .link (.limit .far (some ⟨579, .fails (.ofKind .brokenPipe)⟩)),
      .link (.arrive .far [[0x16, 3, 3, 0, 1, 9, 0x14, 3, 3], [0, 1, 1, 0x16, 3, 3, 0, 0]])] session ∧
    pieces.flatten = [1, 2, 3] ∧ session.link.far.sink.taken.length = 579 ∧
    session.link.far.sink.taken <+:
      (messages .narrow (List.replicate 92 0) pieces).flatten := by
  obtain ⟨session, hr, hn, hl⟩ : ∃ session, Run .narrow (fresh (List.replicate 92 0) (some .connected))
      [.link (.arrive .near [[1, 2, 3]]),
        .link (.limit .far (some ⟨579, .fails (.ofKind .brokenPipe)⟩)),
        .link (.arrive .far [[0x16, 3, 3, 0, 1, 9, 0x14, 3, 3], [0, 1, 1, 0x16, 3, 3, 0, 0]])] session ∧
      session.link.near.source.bytes = [] ∧ session.link.far.sink.taken.length = 579 :=
    ⟨_, (Run.notice _ (.notice _ (.notice _ .start))).trans (run_advance _ 20 _), by decide +kernel,
      by decide +kernel⟩
  obtain ⟨⟨pieces, _, hb, _, _, hs, _⟩, _, _⟩ := outbound_wire hr
  rw [hn, List.append_nil] at hb
  exact ⟨session, pieces, hr, hb, hl, hs⟩

end Camouflage.Session

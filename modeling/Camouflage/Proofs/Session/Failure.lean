import Camouflage.Proofs.Session.Reading

namespace Camouflage.Session

variable {context : Context} {tape : Tape} {dial : Option DialResult} {pieces : List Bytes}
  {read : Bytes} {session session' : Session} {happenings : List Happening} {stage : Stage}
  {error : IoError}

lemma Composed.unique {greeting greeting' reply reply' : Bytes}
    (h : Composed context tape greeting reply) (h' : Composed context tape greeting' reply') :
    greeting' = greeting ∧ reply' = reply := by
  obtain ⟨middle, rest, hc, hr⟩ := h
  obtain ⟨middle', rest', hc', hr'⟩ := h'
  rw [hc] at hc'
  cases hc'
  rw [hr] at hr'
  cases hr'
  exact ⟨rfl, rfl⟩

/-- While the reply or the first record is written, the far side has taken all messages before it. -/
def Behind (context : Context) (tape : Tape) (session : Session) : Prop :=
  match session.phase with
  | .replying _ _ => ∃ greeting middle,
    Greeting.compose context.setup context.now tape = (.ok greeting, middle) ∧
      greeting <+: session.link.far.sink.taken
  | .forwarding _ => ∃ greeting reply, Composed context tape greeting reply ∧
      greeting ++ reply <+: session.link.far.sink.taken
  | _ => True

lemma Behind.turn (h : Behind context tape session) (ho : Outgoing context tape pieces session)
    (ht : Turn context session session') : Behind context tape session' := by
  cases ht with
  | write hs hw _ =>
    obtain ⟨part, _, ht⟩ := Sink.split_of_write hw
    cases hs with
    | greeting _ => trivial
    | reply hp =>
      simp only [Behind, hp] at h
      obtain ⟨greeting, middle, hc, hg⟩ := h
      have hg' := hg.trans (List.prefix_append _ part)
      rw [← ht] at hg'
      exact ⟨greeting, middle, hc, hg'⟩
    | first hp =>
      simp only [Behind, hp] at h
      obtain ⟨greeting, reply, hc, hg⟩ := h
      have hg' := hg.trans (List.prefix_append _ part)
      rw [← ht] at hg'
      exact ⟨greeting, reply, hc, hg'⟩
  | reply hp _ _ _ _ =>
    simp only [Outgoing, hp] at ho
    exact ⟨_, _, ho.2, List.prefix_rfl⟩
  | forward hp hw =>
    simp only [Outgoing, hp] at ho
    obtain ⟨_, greeting, reply, hc, hg⟩ := ho
    have ht := Sink.taken_of_write hw
    rw [List.append_nil, hg] at ht
    refine ⟨greeting, reply, hc, ?_⟩
    rw [← ht]
    exact List.prefix_rfl
  | relay _ _ =>
    simp only [Behind]
    rcases phase_relayed session _ _ with ⟨_, hp⟩ | ⟨_, hp⟩
    · rw [hp]
      trivial
    · rw [hp]
      trivial
  | _ => trivial

lemma behind_of_run (h : Run context (fresh tape dial) happenings session) :
    Behind context tape session := by
  induction h with
  | start => trivial
  | step move h hs ih =>
    obtain ⟨pieces, _, ho⟩ := tells_of_run h
    exact ih.turn ho (turn_of_step hs)
  | @notice _ session happening _ ih =>
    have ht := taken_notice session happening .far
    have hp : (session.notice happening).phase = session.phase := by cases happening <;> rfl
    simp only [Link.on] at ht
    simp only [Behind, hp, ht]
    exact ih

/-- How far a session has come that fails in this stage with this error: how often it has called the
dialer, what it has read of the far side, and what the far side has taken. The first piece of the near
side is `first`. -/
def Stage.Reached (context : Context) (tape : Tape) (error : IoError) (first read : Bytes) (dials : Nat)
    (taken : Bytes) : Stage → Prop
  | .awaitingFirstData => dials = 0 ∧ first = [] ∧ read = [] ∧ taken = []
  | .sendingGreeting => read = [] ∧
    (dials = 0 ∧ taken = [] ∧
      (∃ rest, Greeting.compose context.setup context.now tape = (.error error, rest)) ∨
    dials = 1 ∧ context.fastOpen = false ∧ ∃ greeting rest left,
      Greeting.compose context.setup context.now tape = (.ok greeting, rest) ∧ left ≠ [] ∧
      taken ++ left = greeting)
  | .dialing => dials = 1 ∧ read = [] ∧ ∃ greeting rest,
    Greeting.compose context.setup context.now tape = (.ok greeting, rest) ∧
    (taken = [] ∨ context.fastOpen = true ∧ ∃ left, left ≠ [] ∧ taken ++ left = greeting)
  | .discardingMessage index => dials = 1 ∧ index < 3 ∧ (Record.payloads read).length = index ∧
    ∃ rest, Greeting.compose context.setup context.now tape = (.ok taken, rest)
  | .sendingReply => dials = 1 ∧ (Record.payloads read).length = 3 ∧ ∃ greeting middle,
    Greeting.compose context.setup context.now tape = (.ok greeting, middle) ∧
    (taken = greeting ∧ (∃ rest, Greeting.composeReply middle = (.error error, rest)) ∨
    ∃ reply rest part left, Greeting.composeReply middle = (.ok reply, rest) ∧ left ≠ [] ∧
      part ++ left = reply ∧ taken = greeting ++ part)
  | .forwardingFirstPayload => dials = 1 ∧ (Record.payloads read).length = 3 ∧
    ∃ greeting reply part left, Composed context tape greeting reply ∧ left ≠ [] ∧
      part ++ left = Relay.framed first ∧ taken = greeting ++ reply ++ part

lemma Known.reached_of_write {left : Bytes} {again : Bytes → Phase}
    (h : Known context tape happenings pieces read session) (hw : Behind context tape session)
    (hs : session.phase.Sends context stage left again)
    (hf : session.link.far.sink.write left = .failed error) :
    stage.Reached context tape error pieces.flatten read session.dials
      session.link.far.sink.taken := by
  obtain ⟨_, ho, hi, hh, _⟩ := h
  have hne := Sink.ne_nil_of_write hf
  cases hs with
  | greeting hp =>
    simp only [Outgoing, hp] at ho
    simp only [Incoming, hp] at hi
    simp only [Holds, hp] at hh
    obtain ⟨_, ht, hc⟩ := ho
    by_cases hopen : context.fastOpen = true
    · rw [if_pos hopen]
      exact ⟨hh.1, hi.2, _, _, hc, Or.inr ⟨hopen, left, hne, ht⟩⟩
    · rw [if_neg hopen]
      exact ⟨hi.2, Or.inr ⟨hh.1, Bool.eq_false_iff.mpr hopen, _, _, left, hc, hne, ht⟩⟩
  | reply hp =>
    simp only [Outgoing, hp] at ho
    simp only [Incoming, hp] at hi
    simp only [Holds, hp] at hh
    simp only [Behind, hp] at hw
    obtain ⟨_, greeting, reply, ⟨middle, rest, hc, hr⟩, ht⟩ := ho
    obtain ⟨greeting', middle', hc', part, hpart⟩ := hw
    rw [hc] at hc'
    cases hc'
    rw [← hpart, List.append_assoc] at ht
    exact ⟨hh.1, hi.2.1, greeting, middle, hc, Or.inr ⟨reply, rest, part, left, hr, hne,
      List.append_cancel_left ht, hpart.symm⟩⟩
  | first hp =>
    simp only [Outgoing, hp] at ho
    simp only [Incoming, hp] at hi
    simp only [Holds, hp] at hh
    simp only [Behind, hp] at hw
    obtain ⟨first, greeting, reply, rfl, hcomp, ht⟩ := ho
    obtain ⟨greeting', reply', hcomp', part, hpart⟩ := hw
    obtain ⟨rfl, rfl⟩ := hcomp.unique hcomp'
    rw [← hpart, List.append_assoc] at ht
    refine ⟨hh.1, hi.2.1, greeting', reply', part, left, hcomp, hne, ?_, hpart.symm⟩
    rw [List.flatten_singleton]
    exact List.append_cancel_left ht

def Fails (context : Context) (tape : Tape) (happenings : List Happening) (stage : Stage)
    (error : IoError) (session : Session) : Prop :=
  ∃ pieces read, HasRead context happenings pieces read session ∧ pieces.length ≤ 1 ∧
    stage.Reached context tape error pieces.flatten read session.dials session.link.far.sink.taken

lemma fails_of_fault (h : Known context tape happenings pieces read session)
    (hw : Behind context tape session) (hf : Fault context session stage error session') :
    Fails context tape happenings stage error session' := by
  have hone := h.outgoing.pieces_le hf.rank
  have ho := h.outgoing
  have hi := h.incoming
  have hh := h.holds
  cases hf with
  | await hp _ =>
    simp only [Outgoing, hp] at ho
    simp only [Incoming, hp] at hi
    simp only [Holds, hp] at hh
    obtain ⟨rfl, _, ht⟩ := ho
    exact ⟨[], read, h.toHasRead, hone, hh.1, rfl, hi.2, ht⟩
  | @compose first source error tape' hp hr hc =>
    simp only [Outgoing, hp] at ho
    simp only [Incoming, hp] at hi
    simp only [Holds, hp] at hh
    obtain ⟨rfl, rfl, ht⟩ := ho
    exact ⟨[first], read, h.read_near hr rfl rfl, Nat.le_refl 1, hi.2,
      Or.inl ⟨hh.1, ht, tape', hc⟩⟩
  | dial hp _ =>
    simp only [Outgoing, hp] at ho
    simp only [Incoming, hp] at hi
    simp only [Holds, hp] at hh
    exact ⟨pieces, read, h.toHasRead, hone, hh.1, hi.2, _, _, ho.2.2, Or.inl ho.2.1⟩
  | write hs hw' => exact ⟨pieces, read, h.toHasRead, hone, h.reached_of_write hw hs hw'⟩
  | endEarly hp _ =>
    obtain ⟨hd, hc, hx, hlt, _⟩ := h.discarding hp
    exact ⟨pieces, read, h.toHasRead, hone, hd, hlt, hx, _, hc⟩
  | read hp _ =>
    obtain ⟨hd, hc, hx, hlt, _⟩ := h.discarding hp
    exact ⟨pieces, read, h.toHasRead, hone, hd, hlt, hx, _, hc⟩
  | @tooLong first piece index reader source header hp hr hl =>
    obtain ⟨hd, hc, _, hlt, _⟩ := h.discarding hp
    exact ⟨pieces, read ++ piece, h.read_far hr rfl rfl, hone, hd, hlt, h.tooLong hp hr hl, _, hc⟩
  | @composeReply first piece message index reader source error tape' hp hr hf hlast hr' =>
    obtain ⟨hd, hc, _⟩ := h.discarding hp
    have hx := (h.last_message hp hr hf hlast).1
    exact ⟨pieces, read ++ piece, h.read_far hr rfl rfl, hone, hd, hx, _, _, hc,
      Or.inl ⟨rfl, tape', hr'⟩⟩

lemma step_of_fault (hf : Fault context session stage error session') :
    step context .proceed session = some (session'.fail stage error) := by
  cases hf with
  | await hp hr => simp only [step, proceed, hp, hr]
  | compose hp hr hc =>
    simp only [step, proceed, hp, hr, greet, report, hc]
    rfl
  | dial hp hd => simp only [step, proceed, hp, hd]
  | write hs hw =>
    cases hs with
    | greeting hp => simp only [step, proceed, hp, Session.write, hw]
    | reply hp => simp only [step, proceed, hp, Session.write, hw]
    | first hp => simp only [step, proceed, hp, Session.write, hw]
  | endEarly hp hr => simp only [step, proceed, hp, hr]
  | read hp hr => simp only [step, proceed, hp, hr]
  | tooLong hp hr hl =>
    simp only [step, proceed, hp, hr, hl]
    rfl
  | composeReply hp hr hf hlast hc =>
    simp only [step, proceed, hp, hr, hf, discard, if_neg hlast, reply, report, hc]
    rfl

lemma eq_of_fault {session'' : Session} {move : Move} (hf : Fault context session stage error session')
    (h : step context move session = some session'') : session'' = session'.fail stage error := by
  cases move with
  | proceed =>
    rw [step_of_fault hf] at h
    exact (Option.some.inj h).symm
  | relay move =>
    have hr := hf.rank
    simp only [step] at h
    split at h
    · next hp =>
      rw [hp] at hr
      exact absurd hr (Nat.lt_irrefl 1)
    · cases h

lemma near_held (hh : session.Holds) (hr : 1 < session.phase.rank) :
    session.link.near.tenure = .held := by
  simp only [Holds] at hh
  split at hh
  all_goals first
    | exact hh.2.1
    | next hp =>
      rw [hp] at hr
      simp [Phase.rank] at hr

lemma Fault.tenure (h : Fault context session stage error session') :
    session'.link.near.tenure = session.link.near.tenure := by
  cases h <;> rfl

lemma Fault.taken (h : Fault context session stage error session') (side : Side) :
    ((session'.fail stage error).link.on side).sink.taken = (session.link.on side).sink.taken := by
  have hn := near_sink_fail session' stage error
  have hf := far_sink_fail session' stage error
  cases side with
  | near =>
    simp only [Link.on, hn]
    cases h <;> rfl
  | far =>
    simp only [Link.on, hf]
    cases h <;> rfl

lemma Fails.rests {later : List Happening} (h : Fails context tape happenings stage error session)
    (hr : Rests later (session.fail stage error) session') :
    Fails context tape (happenings ++ later) stage error session' := by
  obtain ⟨pieces, read, hread, hone, hreached⟩ := h
  have ht := hr.taken .far
  simp only [Link.on, far_sink_fail] at ht
  have hread' : HasRead context happenings pieces read (session.fail stage error) :=
    hread.same (near_source_fail session stage error) (far_source_fail session stage error)
  refine ⟨pieces, read, hread'.queue hr.chunks, hone, ?_⟩
  rw [hr.dials, ht]
  exact hreached

lemma fails_of_run (h : Run context (fresh tape dial) happenings session)
    (hp : session.phase = .failed ⟨stage, error⟩) :
    Fails context tape happenings stage error session := by
  have hpos : 0 < (fresh tape dial).phase.rank := Nat.succ_pos 6
  obtain ⟨earlier, later, before, after, rfl, hb, hf, hl⟩ := exists_fault hpos hp h
  obtain ⟨pieces, read, hk⟩ := known_of_run hb
  exact (fails_of_fault hk (behind_of_run hb) hf).rests (rests_of_run rfl hl)

/-- An operation that fails makes the session fail with its stage and its error, and no other turn can
be taken then. A session that failed did so at such an operation, and stands where its stage is
reached: nothing is written behind that point, nothing at all to the near side, no relay was started,
and the connections are let go. -/
theorem failure_attributed (h : Run context (fresh tape dial) happenings session) :
    (∀ stage error after, Fault context session stage error after →
      step context .proceed session = some (after.fail stage error) ∧
      ∀ move session', step context move session = some session' →
        session' = after.fail stage error) ∧
    (∀ stage error, session.phase = .failed ⟨stage, error⟩ →
      (∃ earlier later before after, happenings = earlier ++ later ∧
        Run context (fresh tape dial) earlier before ∧ Fault context before stage error after ∧
        Run context (after.fail stage error) later session ∧
        session.link.far.sink.taken = before.link.far.sink.taken) ∧
      (∃ pieces read,
        pieces ++ session.link.near.source.pieces context.setup.capacities.nearRead =
          (happenings.flatMap (Happening.arrived .near)).flatMap
            (Bytes.cut context.setup.capacities.nearRead) ∧
        read ++ session.link.far.source.bytes =
          (happenings.flatMap (Happening.arrived .far)).flatten ∧
        pieces.length ≤ 1 ∧
        stage.Reached context tape error pieces.flatten read session.dials
          session.link.far.sink.taken) ∧
      session.link.near.sink.taken = [] ∧
      session.link.near.tenure = .released ∧ session.link.far.tenure ≠ .held ∧
      (∀ earlier later middle, Run context (fresh tape dial) earlier middle →
        Run context middle later session → ¬ middle.HasRelay) ∧
      ∀ later session', Run context session later session' → session'.phase = session.phase ∧
        ∀ side, (session'.link.on side).sink.taken = (session.link.on side).sink.taken) := by
  refine ⟨fun stage error after hf => ⟨step_of_fault hf, fun move session' hs => eq_of_fault hf hs⟩, ?_⟩
  intro stage error hp
  have hpos : 0 < (fresh tape dial).phase.rank := Nat.succ_pos 6
  have hzero : session.phase.rank = 0 := by
    rw [hp]
    rfl
  obtain ⟨earlier, later, before, after, rfl, hb, hf, hl⟩ := exists_fault hpos hp h
  have hrest := rests_of_run rfl hl
  obtain ⟨pieces, read, hk⟩ := known_of_run hb
  obtain ⟨pieces', read', ⟨he, hread⟩, hone, hreached⟩ :=
    (fails_of_fault hk (behind_of_run hb) hf).rests hrest
  refine ⟨⟨earlier, later, before, after, rfl, hb, hf, hl, ?_⟩,
    ⟨pieces', read', he, hread, hone, hreached⟩, ?_, ?_, ?_, ?_, ?_⟩
  · exact (hrest.taken .far).trans (hf.taken .far)
  · exact ((hrest.taken .near).trans (hf.taken .near)).trans (hk.incoming.before hf.rank).1
  · refine (hrest.tenure .near).trans (Connection.tenure_release ?_)
    exact hf.tenure.trans (near_held hk.holds hf.rank)
  · have ht := hrest.tenure .far
    simp only [Link.on] at ht
    rw [ht]
    exact Connection.tenure_release_ne
  · intro earlier' later' middle _ hm hs
    have hs' := hasRelay_of_run hs hm
    rw [HasRelay, hp] at hs'
    exact hs'
  · intro later' session' hl'
    have hrest' := rests_of_run hzero hl'
    exact ⟨hrest'.phase, hrest'.taken⟩

theorem second_message_cut_short : ∃ session,
    Run .narrow (fresh (List.replicate 92 0) (some .connected)) [.link (.arrive .near [[1]]),
      .link (.arrive .far [[0x16, 3, 3, 0, 1, 9, 0x14, 3], [3, 0]]), .link (.finish .far .closed)]
      session ∧
    session.phase = .failed ⟨.discardingMessage 1, .earlyEnd⟩ ∧
    session.link.near.sink.taken = [] ∧ session.link.near.tenure = .released ∧
    session.link.far.tenure ≠ .held ∧
    ∃ rest, Greeting.compose Context.narrow.setup Context.narrow.now (List.replicate 92 0) =
      (.ok session.link.far.sink.taken, rest) := by
  obtain ⟨session, hr, hfailed⟩ : ∃ session,
      Run .narrow (fresh (List.replicate 92 0) (some .connected)) [.link (.arrive .near [[1]]),
        .link (.arrive .far [[0x16, 3, 3, 0, 1, 9, 0x14, 3], [3, 0]]), .link (.finish .far .closed)]
        session ∧
      (match session.phase with
      | .failed failure => some failure
      | _ => none) = some ⟨.discardingMessage 1, .earlyEnd⟩ :=
    ⟨_, (Run.notice _ (.notice _ (.notice _ .start))).trans (run_advance _ 30 _), by decide +kernel⟩
  have hp : session.phase = .failed ⟨.discardingMessage 1, .earlyEnd⟩ := by
    split at hfailed
    · next hp => rw [hp, Option.some.inj hfailed]
    · cases hfailed
  obtain ⟨_, ⟨pieces, read, _, _, _, hreached⟩, hn, ht, hf, _⟩ := (failure_attributed hr).2 _ _ hp
  exact ⟨session, hr, hp, hn, ht, hf, hreached.2.2.2⟩

end Camouflage.Session

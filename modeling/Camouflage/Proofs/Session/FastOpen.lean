import Camouflage.Proofs.Greeting.Reading
import Camouflage.Proofs.Session.Failure
import Camouflage.Proofs.Session.Following

/-! A dialer that takes early data and one that does not lead a session through the same states, turn by
turn, as long as the greeting is taken. -/

namespace Camouflage.Session

variable {context : Context} {session session' : Session} {happenings : List Happening} {tape : Tape}
  {dial : Option DialResult}

def Event.plainly : Event → Event
  | .sentGreeting length _ => .sentGreeting length false
  | event => event

def plainly (session : Session) : Session :=
  { session with earlyData := [], log := session.log.map Event.plainly }

section

variable (stage : Stage) (error : IoError) (event : Event) (session)

lemma fail_plainly : session.plainly.fail stage error = (session.fail stage error).plainly := by
  simp [fail, plainly, Event.plainly]

lemma report_plainly : session.plainly.report event.plainly = (session.report event).plainly := by
  simp [report, plainly]

lemma closeEmpty_plainly : session.plainly.closeEmpty = session.closeEmpty.plainly := by
  have he : ∀ error : Option IoError,
      (error.map Event.shutFailed).toList.map Event.plainly = (error.map Event.shutFailed).toList := by
    intro error
    cases error <;> rfl
  simp [closeEmpty, plainly, he, Event.plainly]

lemma notice_plainly (happening : Happening) :
    session.plainly.notice happening = (session.notice happening).plainly := by
  cases happening <;> rfl

lemma relayed_plainly (relay : Relay) (flow : Relay.Flow) :
    session.plainly.relayed relay flow = (session.relayed relay flow).plainly := by
  have hs : Event.plainly ∘ Event.stopped = Event.stopped := rfl
  simp only [relayed]
  split
  · simp [plainly, report, hs, Event.plainly]
  · simp [plainly, hs]

lemma reply_plainly (first : Bytes) : session.plainly.reply first = (session.reply first).plainly := by
  have ht : session.plainly.tape = session.tape := rfl
  simp only [reply, ht]
  split
  · next error tape _ => exact fail_plainly { session with tape } .sendingReply error
  · rfl

lemma discard_plainly (first : Bytes) (index : Nat) (message : Bytes) :
    session.plainly.discard first index message = (session.discard first index message).plainly := by
  have hr : session.plainly.report (.discarded index message.length) =
      (session.report (.discarded index message.length)).plainly :=
    report_plainly session (.discarded index message.length)
  simp only [discard, hr]
  split
  · rfl
  · exact reply_plainly _ first

lemma greet_plainly (setup : Setup) (now : Instant) (first : Bytes) :
    session.plainly.greet ⟨setup, now, false⟩ first =
      (session.greet ⟨setup, now, true⟩ first).plainly := by
  have ht : session.plainly.tape = session.tape := rfl
  simp only [greet, ht]
  split
  · next error tape _ => exact fail_plainly { session with tape } .sendingGreeting error
  · rfl

end

lemma write_plainly {stage stage' : Stage} {left : Bytes} {again : Bytes → Phase}
    {done done' : Session → Session} (hd : ∀ session, done' session.plainly = (done session).plainly)
    (hf : ∀ error, session.link.far.sink.write left = .failed error → stage' = stage) :
    session.plainly.write stage' left again done' = (session.write stage left again done).map plainly := by
  have hl : session.plainly.link = session.link := rfl
  simp only [write, hl]
  cases hw : session.link.far.sink.write left with
  | waits => rfl
  | failed error =>
    rw [hf error hw]
    exact congrArg some (fail_plainly session stage error)
  | took rest sink =>
    simp only
    split
    · exact congrArg some (hd (session.wroteFar sink))
    · rfl

def GreetingFails (session : Session) : Prop :=
  ∃ first greeting left error, session.phase = .greeting first greeting left ∧
    session.link.far.sink.write left = .failed error

lemma proceed_plainly (setup : Setup) (now : Instant) (h : ¬ session.GreetingFails) :
    session.plainly.proceed ⟨setup, now, false⟩ =
      (session.proceed ⟨setup, now, true⟩).map plainly := by
  have hp : session.plainly.phase = session.phase := rfl
  have hl : session.plainly.link = session.link := rfl
  simp only [proceed, hp, hl]
  cases hphase : session.phase with
  | awaitingData =>
    simp only
    cases session.link.near.source.read setup.capacities.nearRead with
    | waits => rfl
    | ended => exact congrArg some (closeEmpty_plainly session)
    | failed error => exact congrArg some (fail_plainly session .awaitingFirstData error)
    | got first source =>
      have hr := report_plainly (session.readNear source) (.gotFirstData first.length)
      have hg := greet_plainly ((session.readNear source).report (.gotFirstData first.length)) setup now
        first
      rw [← hr] at hg
      exact congrArg some hg
  | dialing first greeting =>
    have hd : session.plainly.dial = session.dial := rfl
    simp only [hd]
    cases session.dial with
    | none => rfl
    | some result =>
      cases result with
      | connected => rfl
      | failed error => exact congrArg some (fail_plainly session .dialing error)
  | greeting first greeting left =>
    refine write_plainly ?_ ?_
    · intro session
      exact report_plainly { session with phase := .discarding first 0 .start }
        (.sentGreeting greeting.length true)
    · intro error hw
      exact absurd ⟨first, greeting, left, error, hphase, hw⟩ h
  | discarding first index reader =>
    simp only
    cases session.link.far.source.read reader.missing with
    | waits => rfl
    | ended => exact congrArg some (fail_plainly session (.discardingMessage index) .earlyEnd)
    | failed error => exact congrArg some (fail_plainly session (.discardingMessage index) error)
    | got piece source =>
      simp only
      cases reader.feed setup.capacities.farRecord piece with
      | incomplete reader => rfl
      | tooLong header =>
        exact congrArg some (fail_plainly (session.readFar source) (.discardingMessage index) _)
      | complete message =>
        exact congrArg some (discard_plainly (session.readFar source) first index message)
  | replying first left => exact write_plainly (fun _ => rfl) (fun _ _ => rfl)
  | forwarding left =>
    refine write_plainly ?_ (fun _ _ => rfl)
    intro session
    exact report_plainly { session with phase := .relaying {} } .established
  | _ => rfl

lemma relay_plainly (setup : Setup) (now : Instant) (move : Relay.Move) :
    step ⟨setup, now, false⟩ (.relay move) session.plainly =
      (step ⟨setup, now, true⟩ (.relay move) session).map plainly := by
  have hp : session.plainly.phase = session.phase := rfl
  have hl : session.plainly.link = session.link := rfl
  simp only [step, hp, hl]
  cases session.phase with
  | relaying flow =>
    simp only [Option.map_map]
    congr 1
    funext relay
    exact relayed_plainly session relay flow
  | _ => rfl

/-- The greeting was not taken in full. One session puts it down to the dialer, and the other to itself. -/
def Parted (fast plain : Session) : Prop :=
  plain.link = fast.link ∧ ∃ error, fast.phase = .failed ⟨.dialing, error⟩ ∧
    plain.phase = .failed ⟨.sendingGreeting, error⟩

def Twins (fast plain : Session) : Prop := plain = fast.plainly ∨ Parted fast plain

variable {fast plain : Session}

lemma rel_map_plainly (result : Option Session) : Option.Rel Twins result (result.map plainly) := by
  cases result with
  | none => exact .none
  | some session => exact .some (Or.inl rfl)

lemma rel_of_greetingFails (setup : Setup) (now : Instant) (h : session.GreetingFails) :
    Option.Rel Twins (session.proceed ⟨setup, now, true⟩)
      (session.plainly.proceed ⟨setup, now, false⟩) := by
  obtain ⟨first, greeting, left, error, hp, hw⟩ := h
  have hp' : session.plainly.phase = .greeting first greeting left := hp
  have hw' : session.plainly.link.far.sink.write left = .failed error := hw
  simp only [proceed, hp, hp', write, hw, hw']
  exact .some (Or.inr ⟨rfl, error, rfl, rfl⟩)

lemma step_of_failed {failure : Failure} (hp : session.phase = .failed failure) (move : Move) :
    step context move session = none := by
  cases move with
  | proceed => simp only [step, proceed, hp]
  | relay move => simp only [step, hp]

lemma Twins.act (setup : Setup) (now : Instant) (h : Twins fast plain) (next : Act) :
    Option.Rel Twins (act ⟨setup, now, true⟩ fast next) (act ⟨setup, now, false⟩ plain next) := by
  rcases h with rfl | ⟨hl, error, hf, hp⟩
  · cases next with
    | notice happening => exact .some (Or.inl (notice_plainly fast happening))
    | turn move =>
      cases move with
      | relay move =>
        simp only [Session.act, relay_plainly]
        exact rel_map_plainly _
      | proceed =>
        -- the only turn in which the dialer shows: the stage that a failed write is put down to
        by_cases hg : fast.GreetingFails
        · exact rel_of_greetingFails setup now hg
        · simp only [Session.act, step, proceed_plainly setup now hg]
          exact rel_map_plainly _
  · -- both have failed, so no turn is left to either
    cases next with
    | notice happening =>
      refine .some (Or.inr ?_)
      cases happening with
      | link event => exact ⟨congrArg (Link.apply event) hl, error, hf, hp⟩
      | dialed result => exact ⟨hl, error, hf, hp⟩
    | turn move =>
      simp only [Session.act, step_of_failed hf, step_of_failed hp]
      exact .none

lemma Twins.follow (setup : Setup) (now : Instant) (schedule : List Act) (h : Twins fast plain) :
    Option.Rel Twins (follow ⟨setup, now, true⟩ schedule fast)
      (follow ⟨setup, now, false⟩ schedule plain) := by
  induction schedule generalizing fast plain with
  | nil => exact .some h
  | cons next schedule ih =>
    have ha := h.act setup now next
    simp only [Session.follow]
    revert ha
    generalize Session.act ⟨setup, now, true⟩ fast next = fast'
    generalize Session.act ⟨setup, now, false⟩ plain next = plain'
    intro ha
    cases ha with
    | none => exact .none
    | some h => exact ih h

/-- Early data goes with the call of the dialer, and nothing is written before that. -/
structure Calls (context : Context) (session : Session) : Prop where
  early : session.earlyData.length = if context.fastOpen then session.dials else 0
  unsent : session.dials = 0 →
    (session.phase = .awaitingData ∨ session.phase.rank = 0) ∧ session.link.far.sink.taken = []

lemma Calls.turn (h : Calls context session) (ht : Turn context session session') :
    Calls context session' := by
  have hr := rank_pos_of_turn ht
  have hawait : session.dials = 0 → session.phase = .awaitingData := by
    intro hd
    rcases (h.unsent hd).1 with hp | hz
    · exact hp
    · omega
  cases ht with
  | closeEmpty _ _ =>
    refine ⟨h.early, ?_⟩
    intro hd
    refine ⟨Or.inr rfl, ?_⟩
    rw [far_sink_closeEmpty]
    exact (h.unsent hd).2
  | dial _ _ _ =>
    refine ⟨?_, nofun⟩
    simp only [List.length_append, h.early]
    split <;> rfl
  | write hs _ _ =>
    refine ⟨h.early, ?_⟩
    intro hd
    cases hs <;> simp [hawait hd] at *
  | relay hp _ =>
    refine ⟨?_, ?_⟩
    · rw [earlyData_relayed, dials_relayed]
      exact h.early
    · rw [dials_relayed]
      intro hd
      rw [hawait hd] at hp
      cases hp
  | fail hf =>
    refine ⟨?_, ?_⟩
    · have he := h.early
      rw [← hf.earlyData, ← hf.dials] at he
      exact he
    · intro hd
      have hd' : session.dials = 0 := hf.dials.symm.trans hd
      exact ⟨Or.inr rfl, (hf.taken .far).trans (h.unsent hd').2⟩
  | connect hp _ | greet hp _ | read hp _ _ | discard hp _ _ _ | reply hp _ _ _ _ | forward hp _
  | establish hp _ =>
    refine ⟨h.early, ?_⟩
    intro hd
    rw [hawait hd] at hp
    cases hp

lemma calls_of_run (h : Run context (fresh tape dial) happenings session) : Calls context session := by
  induction h with
  | start =>
    refine ⟨?_, fun _ => ⟨Or.inl rfl, rfl⟩⟩
    split <;> rfl
  | step move _ hs ih => exact ih.turn (turn_of_step hs)
  | @notice _ session happening _ ih =>
    have ht := taken_notice session happening .far
    simp only [Link.on] at ht
    refine ⟨?_, ?_⟩
    · cases happening <;> exact ih.early
    · intro hd
      rw [ht]
      cases happening <;> exact ih.unsent hd

variable {greeting : Bytes} {rest : Tape}

lemma not_isPrefix_of_left {taken left : Bytes} (hl : left ≠ []) (he : taken ++ left = greeting) :
    ¬ greeting <+: taken := by
  intro hp
  have hle := hp.length_le
  have hpos := List.length_pos_iff.mpr hl
  rw [← he, List.length_append] at hle
  omega

lemma taken_ne_nil (hc : Greeting.compose context.setup context.now tape = (.ok greeting, rest))
    (ht : greeting <+: session.link.far.sink.taken) : session.link.far.sink.taken ≠ [] := by
  intro hn
  rw [hn] at ht
  exact Greeting.ne_nil_of_compose hc (List.prefix_nil.mp ht)

lemma phase_ne_of_taken (h : Run context (fresh tape dial) happenings session)
    (hc : Greeting.compose context.setup context.now tape = (.ok greeting, rest))
    (ht : greeting <+: session.link.far.sink.taken) (error : IoError) :
    session.phase ≠ .failed ⟨.dialing, error⟩ := by
  intro hp
  obtain ⟨_, _, _, _, _, _, greeting', rest', hc', htaken⟩ := fails_of_run h hp
  rw [hc] at hc'
  cases hc'
  rcases htaken with hn | ⟨_, left, hne, he⟩
  · exact taken_ne_nil hc ht hn
  · exact not_isPrefix_of_left hne he ht

lemma not_parted (h : Run context (fresh tape dial) happenings session)
    (hc : Greeting.compose context.setup context.now tape = (.ok greeting, rest))
    (ht : greeting <+: session.link.far.sink.taken) : ¬ Parted session session' := by
  rintro ⟨_, error, hp, _⟩
  exact phase_ne_of_taken h hc ht error hp

lemma called_once (h : Run context (fresh tape dial) happenings session)
    (hc : Greeting.compose context.setup context.now tape = (.ok greeting, rest))
    (ht : greeting <+: session.link.far.sink.taken) :
    session.dials = 1 ∧ session.earlyData = if context.fastOpen then [greeting] else [] := by
  obtain ⟨he, hunsent⟩ := calls_of_run h
  have hd : session.dials = 1 := by
    apply Nat.le_antisymm (holds_of_run h).dials_le
    apply Nat.pos_of_ne_zero
    intro hz
    exact taken_ne_nil hc ht (hunsent hz).2
  refine ⟨hd, ?_⟩
  rw [hd] at he
  split
  · next hopen =>
    rw [if_pos hopen] at he
    rcases (handsOver_of_run h).early with hn | ⟨_, greeting', rest', hc', hg⟩
    · rw [hn] at he
      cases he
    · rw [hc] at hc'
      cases hc'
      exact hg
  · next hopen =>
    rw [if_neg hopen] at he
    exact List.length_eq_zero_iff.mp he

lemma twins_fresh (tape : Tape) (dial : Option DialResult) : Twins (fresh tape dial) (fresh tape dial) :=
  Or.inl rfl

/-- Once the greeting was taken in full, the same schedule leads with either dialer to the same session:
to the same bytes taken and read on both sides, the same phase, and so the same failure or the same
counters, the same draws left. Only the early data tells the dialers apart, and what the log says of them. -/
theorem fast_open_changes_nothing (setup : Setup) (now : Instant) (dial : Option DialResult)
    (schedule : List Act) (hc : Greeting.compose setup now tape = (.ok greeting, rest)) :
    (∀ fast, follow ⟨setup, now, true⟩ schedule (fresh tape dial) = some fast →
      greeting <+: fast.link.far.sink.taken →
      fast.dials = 1 ∧ fast.earlyData = [greeting] ∧
      follow ⟨setup, now, false⟩ schedule (fresh tape dial) =
        some { fast with earlyData := [], log := fast.log.map Event.plainly }) ∧
    (∀ plain, follow ⟨setup, now, false⟩ schedule (fresh tape dial) = some plain →
      greeting <+: plain.link.far.sink.taken →
      plain.dials = 1 ∧ plain.earlyData = [] ∧
      ∃ fast, follow ⟨setup, now, true⟩ schedule (fresh tape dial) = some fast ∧
        fast.earlyData = [greeting] ∧
        plain = { fast with earlyData := [], log := fast.log.map Event.plainly }) := by
  have hrel := (twins_fresh tape dial).follow setup now schedule
  have hrun : ∀ context session, follow context schedule (fresh tape dial) = some session →
      Run context (fresh tape dial) (schedule.filterMap Act.happening?) session := by
    intro context session hf
    exact run_iff_exists_schedule.mpr ⟨schedule, hf, rfl⟩
  constructor
  · intro fast hf ht
    have hr := hrun _ _ hf
    obtain ⟨hd, he⟩ := called_once hr hc ht
    refine ⟨hd, he, ?_⟩
    rw [hf] at hrel
    generalize follow ⟨setup, now, false⟩ schedule (fresh tape dial) = plain at hrel ⊢
    cases hrel with
    | some htwins =>
      rcases htwins with rfl | hparted
      · rfl
      · exact absurd hparted (not_parted hr hc ht)
  · intro plain hp ht
    obtain ⟨hd, he⟩ := called_once (hrun _ _ hp) hc ht
    refine ⟨hd, he, ?_⟩
    rw [hp] at hrel
    generalize hf : follow ⟨setup, now, true⟩ schedule (fresh tape dial) = result at hrel
    cases hrel with
    | @some fast _ htwins =>
      have hr := hrun _ _ hf
      rcases htwins with rfl | hparted
      · exact ⟨fast, rfl, (called_once hr hc ht).2, rfl⟩
      · rw [hparted.1] at ht
        exact absurd hparted (not_parted hr hc ht)

theorem later_failure_same :
    let setup := Context.narrow.setup
    let now := Context.narrow.now
    let start := fresh (List.replicate 92 0) none
    let proceed := Act.turn .proceed
    let schedule := [.notice (.link (.arrive .near [[1]])), proceed, .notice (.dialed .connected), proceed,
      .notice (.link (.limit .far (some ⟨100, .stalls⟩))), proceed, .notice (.link (.limit .far none)),
      proceed, .notice (.link (.arrive .far [[0x16, 3, 3, 0, 1, 9, 0x14, 3], [3, 0]])), proceed, proceed,
      proceed, proceed, .notice (.link (.finish .far .closed)), proceed]
    ∃ fast plain greeting rest, Greeting.compose setup now (List.replicate 92 0) = (.ok greeting, rest) ∧
      follow ⟨setup, now, true⟩ schedule start = some fast ∧
      follow ⟨setup, now, false⟩ schedule start = some plain ∧
      fast.phase = .failed ⟨.discardingMessage 1, .earlyEnd⟩ ∧ plain.phase = fast.phase ∧
      fast.earlyData = [greeting] ∧ plain.earlyData = [] ∧
      greeting <+: plain.link.far.sink.taken := by
  intro setup now start proceed schedule
  let reaches (session : Session) : Bool :=
    match session.phase with
    | .failed failure => failure = ⟨.discardingMessage 1, .earlyEnd⟩
    | _ => false
  have hany : (follow ⟨setup, now, true⟩ schedule start).any reaches = true := by decide +kernel
  obtain ⟨fast, hf, hr⟩ := (Option.any_eq_true _ _).mp hany
  have hp : fast.phase = .failed ⟨.discardingMessage 1, .earlyEnd⟩ := by
    simp only [reaches] at hr
    split at hr
    · next hp => rw [hp, of_decide_eq_true hr]
    · cases hr
  have hrun : Run ⟨setup, now, true⟩ start (schedule.filterMap Act.happening?) fast :=
    run_iff_exists_schedule.mpr ⟨schedule, hf, rfl⟩
  obtain ⟨_, _, _, _, _, _, _, rest, hc⟩ := fails_of_run hrun hp
  have ht : fast.link.far.sink.taken <+: fast.link.far.sink.taken := List.prefix_rfl
  obtain ⟨-, he, hplain⟩ := (fast_open_changes_nothing setup now none schedule hc).1 fast hf ht
  exact ⟨fast, _, _, rest, hc, hf, hplain, hp, rfl, he, rfl, ht⟩

end Camouflage.Session

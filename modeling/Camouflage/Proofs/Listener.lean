import Camouflage.Listener
import Camouflage.Proofs.EarlyData
import Camouflage.Proofs.Session.FastOpen

/-! A dialer that takes early data has sent the greeting by the time it gives a connection away. A session
counts these sends among its own turns, and comes to what the one dial comes to. -/

namespace Camouflage

def IoError.Alike (error found : IoError) : Prop :=
  found.kind = error.kind ∧ found.message = error.message

/-- The refusal does not ask to wait; a connection that does so is one that stalls. -/
def Refusal.IsFinal : Refusal → Prop
  | .fails error => ¬ error.AsksToWait
  | _ => True

namespace Sink

variable {bytes left : Bytes} {sink sink' : Sink} {error : IoError}

def IsFinal (sink : Sink) : Prop :=
  ∀ refusal, sink.limit.map Limit.refusal = some refusal → refusal.IsFinal

def answer (bytes : Bytes) (sink : Sink) : EarlyData.Answer :=
  match sink.write bytes with
  | .waits => .failed (.system .tryAgain)
  | .failed error => if error = .tookNothing then .took 0 else .failed error
  | .took left _ => .took (bytes.length - left.length)

lemma IsFinal.write (h : sink.IsFinal) (hw : sink.write bytes = .took left sink') : sink'.IsFinal := by
  rw [IsFinal, refusal_of_write hw]
  exact h

lemma fails_of_write (h : sink.write bytes = .failed error) (hn : error ≠ .tookNothing) :
    sink.limit.map Limit.refusal = some (.fails error) := by
  simp only [Sink.write] at h
  split at h
  · cases h
  · split at h
    · cases h
    · cases h
      exact absurd rfl hn
    · next hl =>
      cases h
      rw [hl]
      rfl
    · cases h

lemma answer_of_took (hb : bytes ≠ []) (h : sink.write bytes = .took left sink') :
    (sink.answer bytes).GoesOn ∧ bytes.drop (sink.answer bytes).count = left := by
  have ha : sink.answer bytes = .took (bytes.length - left.length) := by simp only [answer, h]
  have hlt := length_lt_of_write hb h
  obtain ⟨part, rfl, -⟩ := split_of_write h
  rw [ha]
  rw [List.length_append] at hlt
  refine ⟨?_, ?_⟩
  · simp only [EarlyData.Answer.GoesOn, List.length_append]
    omega
  · simp [EarlyData.Answer.count]

lemma answer_of_failed (hs : sink.IsFinal) (h : sink.write bytes = .failed error) :
    ∃ found, (sink.answer bytes).Ends found ∧ error.Alike found := by
  simp only [answer, h]
  split
  · next he =>
    rw [he]
    exact ⟨_, .nothing, rfl, rfl⟩
  · next he => exact ⟨error, .failed (hs _ (fails_of_write h he)), rfl, rfl⟩

end Sink

namespace Link

def Event.IsFinal (event : Event) : Prop :=
  ∀ limit, event = .limit .far (some limit) → limit.refusal.IsFinal

lemma isFinal_apply {event : Event} {link : Link} (h : link.far.sink.IsFinal) (he : event.IsFinal) :
    (link.apply event).far.sink.IsFinal := by
  intro refusal hr
  rcases limit_apply event link .far with ⟨limit, rfl, hl⟩ | hl
  · simp only [on] at hl
    rw [hl] at hr
    obtain ⟨limit, rfl, rfl⟩ := Option.map_eq_some_iff.mp hr
    exact he limit rfl
  · simp only [on] at hl
    rw [hl] at hr
    exact h refusal hr

end Link

namespace Session

open EarlyData (send)

variable {context : Context} {start session session' : Session} {events : List Link.Event}
  {answers : List EarlyData.Answer} {tape rest : Tape} {greeting : Bytes} {pieces : List Bytes}

def heard (session : Session) : List EarlyData.Answer :=
  match session.phase with
  | .greeting _ _ left => [session.link.far.sink.answer left]
  | _ => []

inductive Answered (context : Context) (start : Session) :
    List Link.Event → List EarlyData.Answer → Session → Prop
  | start : Answered context start [] [] start
  | step {events : List Link.Event} {answers : List EarlyData.Answer} {session session' : Session}
      (move : Move) : Answered context start events answers session →
      step context move session = some session' →
      Answered context start events (answers ++ session.heard) session'
  | notice {events : List Link.Event} {answers : List EarlyData.Answer} {session : Session}
      (event : Link.Event) : Answered context start events answers session →
      Answered context start (events ++ [event]) answers (session.notice (.link event))

lemma Answered.run (h : Answered context start events answers session) :
    Run context start (events.map .link) session := by
  induction h with
  | start => exact .start
  | step move _ hs ih => exact .step move ih hs
  | notice event _ ih =>
    rw [List.map_append]
    exact .notice (.link event) ih

lemma run_iff_exists_answers : Run context start (events.map .link) session ↔
    ∃ answers, Answered context start events answers session := by
  refine ⟨?_, fun ⟨_, h⟩ => h.run⟩
  intro h
  generalize hh : events.map Happening.link = happenings at h
  induction h generalizing events with
  | start =>
    obtain rfl := List.map_eq_nil_iff.mp hh
    exact ⟨[], .start⟩
  | step move _ hs ih =>
    obtain ⟨answers, h⟩ := ih hh
    exact ⟨_, .step move h hs⟩
  | notice happening _ ih =>
    obtain ⟨earlier, last, rfl, he, hl⟩ := List.map_eq_append_iff.mp hh
    obtain ⟨event, rfl, rfl⟩ := List.map_eq_singleton_iff.mp hl
    obtain ⟨answers, h⟩ := ih he
    exact ⟨answers, .notice event h⟩

def Failure.Dial (dial : Option DialResult) (result : EarlyData.Result) (failure : Failure) : Prop :=
  match failure.stage with
  | .awaitingFirstData | .sendingGreeting => True
  | .dialing =>
    dial = some (.failed failure.error) ∨
      dial = some .connected ∧ ∃ found, result = .failed found ∧ failure.error.Alike found
  | _ => dial = some .connected ∧ result = .sent

/-- How far the dial with the greeting as early data has come. It has sent all of it before the session reads
the first of the server's messages. -/
def Dialing (greeting : Bytes) (answers : List EarlyData.Answer) (session : Session) : Prop :=
  match session.phase with
  | .awaitingData | .dialing _ _ => answers = [] ∧ session.link.far.sink.IsFinal
  | .greeting _ _ left =>
    session.dial = some .connected ∧ (send greeting answers).2 = .unfinished left ∧
      session.link.far.sink.IsFinal
  | .empty => session.link.far.sink.taken = []
  | .failed failure => failure.Dial session.dial (send greeting answers).2
  | _ => session.dial = some .connected ∧ (send greeting answers).2 = .sent

lemma dial_relayed (relay : Relay) (flow : Relay.Flow) :
    (session.relayed relay flow).dial = session.dial := by
  simp only [relayed]
  split <;> rfl

lemma Dialing.write {stage : Stage} {left rest : Bytes} {again : Bytes → Phase} {sink : Sink}
    (h : Dialing greeting answers session) (hs : session.phase.Sends context stage left again)
    (hw : session.link.far.sink.write left = .took rest sink) (hr : rest ≠ []) :
    Dialing greeting (answers ++ session.heard) { session.wroteFar sink with phase := again rest } := by
  cases hs with
  | greeting hp =>
    simp only [Dialing, hp] at h
    obtain ⟨hd, hu, hf⟩ := h
    obtain ⟨hg, hl⟩ := Sink.answer_of_took (EarlyData.ne_nil_of_unfinished hu) hw
    refine ⟨hd, ?_, hf.write hw⟩
    simp only [heard, hp]
    rw [EarlyData.result_append_of_goesOn hu hg, hl, send, if_neg hr]
  | reply hp | first hp =>
    simp only [Dialing, hp] at h
    simp only [heard, hp, List.append_nil]
    exact h

lemma Dialing.greet {first sent left : Bytes} {sink : Sink} (h : Dialing greeting answers session)
    (hp : session.phase = .greeting first sent left)
    (hw : session.link.far.sink.write left = .took [] sink) :
    session.dial = some .connected ∧ (send greeting (answers ++ session.heard)).2 = .sent := by
  simp only [Dialing, hp] at h
  obtain ⟨hd, hu, _⟩ := h
  obtain ⟨hg, hl⟩ := Sink.answer_of_took (EarlyData.ne_nil_of_unfinished hu) hw
  simp only [heard, hp]
  rw [EarlyData.result_append_of_goesOn hu hg, hl]
  exact ⟨hd, rfl⟩

lemma Dialing.fault {stage : Stage} {error : IoError} (h : Dialing greeting answers session)
    (hopen : context.fastOpen = true) (hf : Fault context session stage error session') :
    Dialing greeting (answers ++ session.heard) (session'.fail stage error) := by
  cases hf with
  | await _ _ | compose _ _ _ => trivial
  | dial _ hd => exact Or.inl hd
  | write hs hw =>
    cases hs with
    | greeting hp =>
      simp only [Dialing, hp] at h
      obtain ⟨hd, hu, hfinal⟩ := h
      obtain ⟨found, he, hlike⟩ := Sink.answer_of_failed hfinal hw
      rw [if_pos hopen]
      simp only [heard, hp]
      exact Or.inr ⟨hd, found, EarlyData.result_append_of_ends hu he, hlike⟩
    | reply hp | first hp =>
      simp only [Dialing, hp] at h
      simp only [heard, hp, List.append_nil]
      exact h
  | endEarly hp _ | read hp _ | tooLong hp _ _ | composeReply hp _ _ _ _ =>
    simp only [Dialing, hp] at h
    simp only [heard, hp, List.append_nil]
    exact h

lemma Dialing.turn (h : Dialing greeting answers session)
    (ho : Outgoing context tape pieces session) (hopen : context.fastOpen = true)
    (hc : Greeting.compose context.setup context.now tape = (.ok greeting, rest))
    (ht : Turn context session session') :
    Dialing greeting (answers ++ session.heard) session' := by
  cases ht with
  | closeEmpty hp _ =>
    simp only [Outgoing, hp] at ho
    have hs := far_sink_closeEmpty session
    change session.closeEmpty.link.far.sink.taken = []
    rw [hs]
    exact ho.2.2
  | connect hp hd =>
    simp only [Dialing, hp] at h
    simp only [Outgoing, hp] at ho
    obtain ⟨rfl, hf⟩ := h
    obtain ⟨-, -, hg⟩ := ho
    rw [hc] at hg
    cases hg
    simp only [heard, hp]
    refine ⟨hd, ?_, hf⟩
    rw [List.append_nil, send, if_neg (Greeting.ne_nil_of_compose hc)]
  | write hs hw hr => exact h.write hs hw hr
  | greet hp hw => exact h.greet hp hw
  | dial hp _ _ | read hp _ _ | discard hp _ _ _ | reply hp _ _ _ _ | forward hp _
  | establish hp _ =>
    simp only [Dialing, hp] at h
    simp only [heard, hp, List.append_nil]
    exact h
  | @relay flow relay hp _ =>
    simp only [Dialing, hp] at h
    simp only [heard, hp, List.append_nil]
    rw [← dial_relayed relay flow] at h
    simp only [Dialing]
    rcases phase_relayed session relay flow with ⟨_, hp'⟩ | ⟨_, hp'⟩
    · rw [hp']
      exact h
    · rw [hp']
      exact h
  | fail hf => exact h.fault hopen hf

lemma Dialing.notice {event : Link.Event} (h : Dialing greeting answers session)
    (he : event.IsFinal) : Dialing greeting answers (session.notice (.link event)) := by
  have ht : (session.notice (.link event)).link.far.sink.taken = session.link.far.sink.taken :=
    taken_notice session (.link event) .far
  have hf : session.link.far.sink.IsFinal → (session.notice (.link event)).link.far.sink.IsFinal :=
    fun hf => Link.isFinal_apply hf he
  have hp : (session.notice (.link event)).phase = session.phase := rfl
  have hd : (session.notice (.link event)).dial = session.dial := rfl
  cases hphase : session.phase with
  | awaitingData | dialing _ _ =>
    simp only [Dialing, hp, hphase] at h ⊢
    exact ⟨h.1, hf h.2⟩
  | greeting _ _ _ =>
    simp only [Dialing, hp, hd, hphase] at h ⊢
    exact ⟨h.1, h.2.1, hf h.2.2⟩
  | _ =>
    simp only [Dialing, hp, hd, ht, hphase] at h ⊢
    exact h

lemma dialing_of_answered {dial : Option DialResult}
    (h : Answered context (fresh tape dial) events answers session) (hopen : context.fastOpen = true)
    (hc : Greeting.compose context.setup context.now tape = (.ok greeting, rest))
    (hf : ∀ event ∈ events, event.IsFinal) : Dialing greeting answers session := by
  induction h with
  | start => exact ⟨rfl, nofun⟩
  | step move h hs ih =>
    obtain ⟨_, _, ho⟩ := tells_of_run h.run
    exact (ih hf).turn ho hopen hc (turn_of_step hs)
  | notice event _ ih =>
    obtain ⟨hf, he⟩ := List.forall_mem_append.mp hf
    exact (ih hf).notice (he event List.mem_cons_self)

lemma Fault.dial_eq {stage : Stage} {error : IoError}
    (h : Fault context session stage error session') : session'.dial = session.dial := by
  cases h <;> rfl

lemma dial_of_turn (h : Turn context session session') : session'.dial = session.dial := by
  cases h with
  | relay _ _ => exact dial_relayed _ _
  | fail hf => exact hf.dial_eq
  | _ => rfl

lemma dial_of_answered (h : Answered context start events answers session) :
    session.dial = start.dial := by
  induction h with
  | start => rfl
  | step move _ hs ih => exact (dial_of_turn (turn_of_step hs)).trans ih
  | notice event _ ih => exact ih

lemma sent_of_answered {dial : Option DialResult}
    (h : Answered context (fresh tape dial) events answers session) (hopen : context.fastOpen = true)
    (hc : Greeting.compose context.setup context.now tape = (.ok greeting, rest))
    (hf : ∀ event ∈ events, event.IsFinal) (ht : greeting <+: session.link.far.sink.taken) :
    session.dial = some .connected ∧ (send greeting answers).2 = .sent := by
  have hd := dialing_of_answered h hopen hc hf
  have hne := taken_ne_nil hc ht
  obtain ⟨_, _, ho⟩ := tells_of_run h.run
  cases hp : session.phase with
  | awaitingData =>
    simp only [Outgoing, hp] at ho
    exact absurd ho.2.2 hne
  | dialing _ _ =>
    simp only [Outgoing, hp] at ho
    exact absurd ho.2.1 hne
  | greeting _ _ left =>
    simp only [Outgoing, hp] at ho
    simp only [Dialing, hp] at hd
    obtain ⟨_, he, hc'⟩ := ho
    rw [hc] at hc'
    cases hc'
    exact absurd ht (not_isPrefix_of_left (EarlyData.ne_nil_of_unfinished hd.2.1) he)
  | empty =>
    simp only [Dialing, hp] at hd
    exact absurd hd hne
  | failed failure =>
    obtain ⟨stage, error⟩ := failure
    obtain ⟨_, _, _, _, hreached⟩ := fails_of_run h.run hp
    simp only [Dialing, hp] at hd
    cases stage with
    | awaitingFirstData => exact absurd hreached.2.2.2 hne
    | sendingGreeting =>
      rcases hreached.2 with ⟨_, hn, _⟩ | ⟨_, hclosed, _⟩
      · exact absurd hn hne
      · rw [hopen] at hclosed
        cases hclosed
    | dialing => exact absurd hp (phase_ne_of_taken h.run hc ht error)
    | _ => exact hd
  | _ =>
    simp only [Dialing, hp] at hd
    exact hd

end Session

namespace Network

variable {network : Network} {endpoint : Endpoint} {data sent : Bytes} {error : IoError}

open EarlyData (send)

lemma eq_of_sendEarly (h : network.sendEarly endpoint data = .ok sent) : sent = data := by
  have hover := EarlyData.result_append_took data (network.answers endpoint)
  have hall := @EarlyData.accepted_of_sent data (network.answers endpoint ++ [.took data.length])
  rcases hs : send data (network.answers endpoint ++ [.took data.length]) with ⟨attempts, result⟩
  rw [hs] at hover hall
  simp only [sendEarly, hs] at h
  cases result with
  | sent =>
    cases h
    exact hall rfl
  | failed error => cases h
  | unfinished left => exact absurd rfl (hover left)

lemma sendEarly_of_sent (h : (send data (network.answers endpoint)).2 = .sent) :
    network.sendEarly endpoint data = .ok data := by
  have ha := EarlyData.send_append_of_over (by rw [h]; nofun) [.took data.length]
  have hall := EarlyData.accepted_of_sent h
  rw [Prod.eq_iff_fst_eq_snd_eq] at ha
  simp only [sendEarly, ha, h, hall]

lemma sendEarly_of_failed (h : (send data (network.answers endpoint)).2 = .failed error) :
    network.sendEarly endpoint data = .error error := by
  have ha := EarlyData.send_append_of_over (by rw [h]; nofun) [.took data.length]
  simp only [sendEarly, ha, h]

end Network

namespace Dialer

variable {network : Network} {dialer : Dialer} {early : Option Bytes} {dialed : Dialed}

theorem eq_of_dial (h : dialer.dial network early = .ok dialed) : dialed = ⟨true, early.getD []⟩ := by
  rw [dial] at h
  split at h
  · cases h
  · cases hs : network.sendEarly dialer.target (early.getD []) with
    | error error =>
      rw [hs] at h
      cases h
    | ok sent =>
      rw [hs] at h
      cases h
      rw [Network.eq_of_sendEarly hs]

end Dialer

namespace Listener

open Session EarlyData

variable {listener : Listener} {tape rest : Tape} {events : List Link.Event} {answers : List Answer}
  {session : Session} {greeting : Bytes} {error : IoError}

lemma dialResult_eq : listener.dialResult =
    match listener.dialer.connect listener.network with
    | .ok _ => .connected
    | .error error => .failed error := by
  have hn : listener.network.sendEarly listener.dialer.target [] = .ok [] :=
    Network.sendEarly_of_sent (congrArg Prod.snd (send_nothing _))
  simp only [dialResult, Dialer.dial, Option.getD_none, hn]
  cases listener.dialer.connect listener.network <;> rfl

lemma connect_of_connected (h : listener.dialResult = .connected) :
    listener.dialer.connect listener.network = .ok () := by
  rw [dialResult_eq] at h
  split at h
  · next hc => exact hc
  · cases h

lemma connect_of_failed (h : listener.dialResult = .failed error) :
    listener.dialer.connect listener.network = .error error := by
  rw [dialResult_eq] at h
  split at h
  · cases h
  · next hc =>
    cases h
    exact hc

def dialEarly (answers : List Answer) (data : Bytes) (listener : Listener) : Except IoError Dialed :=
  listener.dialer.dial { listener.network with answers := fun _ => answers } (some data)

lemma dialEarly_of_failed (h : listener.dialResult = .failed error) (data : Bytes) :
    listener.dialEarly answers data = .error error := by
  have hc : listener.dialer.connect { listener.network with answers := fun _ => answers } =
    .error error := connect_of_failed h
  simp only [dialEarly, Dialer.dial, hc]

lemma dialEarly_of_connected (h : listener.dialResult = .connected) (data : Bytes) :
    listener.dialEarly answers data =
      (Network.sendEarly { listener.network with answers := fun _ => answers }
        listener.dialer.target data).map fun sent => ⟨true, sent⟩ := by
  have hc : listener.dialer.connect { listener.network with answers := fun _ => answers } =
    .ok () := connect_of_connected h
  simp only [dialEarly, Dialer.dial, hc, Option.getD_some]

/-- A session whose dialer takes early data comes to what one dial with the greeting comes to that gets the
answers of the far side: the far side takes all of the greeting, or the dial ends with the same error, or it
has as much left to send. -/
theorem dialEarly_of_run
    (h : Run listener.context (fresh tape (some listener.dialResult)) (events.map .link) session)
    (hopen : listener.context.fastOpen = true)
    (hc : Greeting.compose listener.context.setup listener.context.now tape = (.ok greeting, rest))
    (hf : ∀ event ∈ events, event.IsFinal) :
    ∃ answers, Answered listener.context (fresh tape (some listener.dialResult)) events answers session ∧
      (greeting <+: session.link.far.sink.taken →
        listener.dialEarly answers greeting = .ok ⟨true, greeting⟩) ∧
      (∀ error, session.phase = .failed ⟨.dialing, error⟩ →
        ∃ found, listener.dialEarly answers greeting = .error found ∧ error.Alike found) ∧
      ∀ first left, session.phase = .greeting first greeting left →
        (send greeting answers).2 = .unfinished left := by
  obtain ⟨answers, ha⟩ := run_iff_exists_answers.mp h
  have hdial : session.dial = some listener.dialResult := dial_of_answered ha
  have hd := dialing_of_answered ha hopen hc hf
  refine ⟨answers, ha, ?_, ?_, ?_⟩
  · intro ht
    obtain ⟨hconnected, hs⟩ := sent_of_answered ha hopen hc hf ht
    rw [hdial] at hconnected
    rw [dialEarly_of_connected (Option.some.inj hconnected), Network.sendEarly_of_sent hs]
    rfl
  · intro error hp
    simp only [Dialing, hp, Failure.Dial, hdial] at hd
    rcases hd with hfailed | ⟨hconnected, found, hs, hlike⟩
    · exact ⟨error, dialEarly_of_failed (Option.some.inj hfailed) greeting, rfl, rfl⟩
    · rw [dialEarly_of_connected (Option.some.inj hconnected), Network.sendEarly_of_failed hs]
      exact ⟨found, rfl, hlike⟩
  · intro first left hp
    simp only [Dialing, hp] at hd
    exact hd.2.1

end Listener

end Camouflage

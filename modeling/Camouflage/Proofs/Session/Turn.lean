import Camouflage.Proofs.Relay.Turn
import Camouflage.Session.Run
import Camouflage.Session.Schedule

/-! The turns of a session. Before the relay runs it does one thing at a time: it reads, composes,
dials or writes, and what it may do next is written in its phase. -/

namespace Camouflage.Session

def readNear (source : Source) (session : Session) : Session :=
  { session with link.near.source := source }

def readFar (source : Source) (session : Session) : Session :=
  { session with link.far.source := source }

def wroteFar (sink : Sink) (session : Session) : Session :=
  { session with link.far.sink := sink }

/-- In this phase `left` is to be written, and the phase with other bytes left is `again`. A write
that fails is put down to the stage. -/
inductive Phase.Sends (context : Context) (phase : Phase) :
    Stage → Bytes → (Bytes → Phase) → Prop
  | greeting {first greeting left : Bytes} : phase = .greeting first greeting left →
      Sends context phase (if context.fastOpen then .dialing else .sendingGreeting) left
        (.greeting first greeting)
  | reply {first left : Bytes} : phase = .replying first left →
      Sends context phase .sendingReply left (.replying first)
  | first {left : Bytes} : phase = .forwarding left →
      Sends context phase .forwardingFirstPayload left .forwarding

/-- The first operation that fails, the stage and the error that it is reported with, and the session
at that point. -/
inductive Fault (context : Context) (session : Session) : Stage → IoError → Session → Prop
  | await {error : IoError} : session.phase = .awaitingData →
      session.link.near.source.read context.setup.capacities.nearRead = .failed error →
      Fault context session .awaitingFirstData error session
  | compose {first : Bytes} {source : Source} {error : IoError} {tape : Tape} :
      session.phase = .awaitingData →
      session.link.near.source.read context.setup.capacities.nearRead = .got first source →
      Greeting.compose context.setup context.now session.tape = (.error error, tape) →
      Fault context session .sendingGreeting error
        { (session.readNear source).report (.gotFirstData first.length) with tape }
  | dial {first greeting : Bytes} {error : IoError} : session.phase = .dialing first greeting →
      session.dial = some (.failed error) → Fault context session .dialing error session
  | write {stage : Stage} {left : Bytes} {again : Bytes → Phase} {error : IoError} :
      session.phase.Sends context stage left again →
      session.link.far.sink.write left = .failed error → Fault context session stage error session
  | endEarly {first : Bytes} {index : Nat} {reader : Record.Reader} :
      session.phase = .discarding first index reader →
      session.link.far.source.read reader.missing = .ended →
      Fault context session (.discardingMessage index) .earlyEnd session
  | read {first : Bytes} {index : Nat} {reader : Record.Reader} {error : IoError} :
      session.phase = .discarding first index reader →
      session.link.far.source.read reader.missing = .failed error →
      Fault context session (.discardingMessage index) error session
  | tooLong {first piece : Bytes} {index : Nat} {reader : Record.Reader} {source : Source}
      {header : Record.Header} : session.phase = .discarding first index reader →
      session.link.far.source.read reader.missing = .got piece source →
      reader.feed context.setup.capacities.farRecord piece = .tooLong header →
      Fault context session (.discardingMessage index)
        (.recordTooLong header context.setup.capacities.farRecord) (session.readFar source)
  | composeReply {first piece message : Bytes} {index : Nat} {reader : Record.Reader}
      {source : Source} {error : IoError} {tape : Tape} :
      session.phase = .discarding first index reader →
      session.link.far.source.read reader.missing = .got piece source →
      reader.feed context.setup.capacities.farRecord piece = .complete message →
      ¬ index + 1 < Greeting.serverMessages →
      Greeting.composeReply session.tape = (.error error, tape) →
      Fault context session .sendingReply error
        { (session.readFar source).report (.discarded index message.length) with tape }

inductive Turn (context : Context) (session : Session) : Session → Prop
  | closeEmpty : session.phase = .awaitingData →
      session.link.near.source.read context.setup.capacities.nearRead = .ended →
      Turn context session session.closeEmpty
  | dial {first greeting : Bytes} {source : Source} {tape : Tape} : session.phase = .awaitingData →
      session.link.near.source.read context.setup.capacities.nearRead = .got first source →
      Greeting.compose context.setup context.now session.tape = (.ok greeting, tape) →
      Turn context session
        { (session.readNear source).report (.gotFirstData first.length) with
          tape
          phase := .dialing first greeting
          dials := session.dials + 1
          earlyData := session.earlyData ++ if context.fastOpen then [greeting] else [] }
  | connect {first greeting : Bytes} : session.phase = .dialing first greeting →
      session.dial = some .connected →
      Turn context session
        { session with
          link.far := session.link.far.hold
          phase := .greeting first greeting greeting }
  | write {stage : Stage} {left rest : Bytes} {again : Bytes → Phase} {sink : Sink} :
      session.phase.Sends context stage left again →
      session.link.far.sink.write left = .took rest sink → rest ≠ [] →
      Turn context session { session.wroteFar sink with phase := again rest }
  | greet {first greeting left : Bytes} {sink : Sink} :
      session.phase = .greeting first greeting left →
      session.link.far.sink.write left = .took [] sink →
      Turn context session
        ({ session.wroteFar sink with phase := .discarding first 0 .start }.report
          (.sentGreeting greeting.length context.fastOpen))
  | read {first piece : Bytes} {index : Nat} {reader reader' : Record.Reader} {source : Source} :
      session.phase = .discarding first index reader →
      session.link.far.source.read reader.missing = .got piece source →
      reader.feed context.setup.capacities.farRecord piece = .incomplete reader' →
      Turn context session { session.readFar source with phase := .discarding first index reader' }
  | discard {first piece message : Bytes} {index : Nat} {reader : Record.Reader} {source : Source} :
      session.phase = .discarding first index reader →
      session.link.far.source.read reader.missing = .got piece source →
      reader.feed context.setup.capacities.farRecord piece = .complete message →
      index + 1 < Greeting.serverMessages →
      Turn context session
        { (session.readFar source).report (.discarded index message.length) with
          phase := .discarding first (index + 1) .start }
  | reply {first piece message reply : Bytes} {index : Nat} {reader : Record.Reader}
      {source : Source} {tape : Tape} : session.phase = .discarding first index reader →
      session.link.far.source.read reader.missing = .got piece source →
      reader.feed context.setup.capacities.farRecord piece = .complete message →
      ¬ index + 1 < Greeting.serverMessages →
      Greeting.composeReply session.tape = (.ok reply, tape) →
      Turn context session
        { (session.readFar source).report (.discarded index message.length) with
          tape
          phase := .replying first reply }
  | forward {first left : Bytes} {sink : Sink} : session.phase = .replying first left →
      session.link.far.sink.write left = .took [] sink →
      Turn context session
        { session.wroteFar sink with phase := .forwarding (Relay.framed first) }
  | establish {left : Bytes} {sink : Sink} : session.phase = .forwarding left →
      session.link.far.sink.write left = .took [] sink →
      Turn context session
        ({ session.wroteFar sink with phase := .relaying {} }.report .established)
  | relay {flow : Relay.Flow} {relay : Relay} : session.phase = .relaying flow →
      Relay.Turn context.setup.capacities ⟨session.link, flow⟩ relay →
      Turn context session (session.relayed relay flow)
  | fail {stage : Stage} {error : IoError} {session' : Session} :
      Fault context session stage error session' → Turn context session (session'.fail stage error)

variable {context : Context} {session session' : Session} {move : Move}

lemma turn_of_write {stage : Stage} {left : Bytes} {again : Bytes → Phase}
    {done : Session → Session} (hs : session.phase.Sends context stage left again)
    (hd : ∀ sink, session.link.far.sink.write left = .took [] sink →
      Turn context session (done (session.wroteFar sink)))
    (h : session.write stage left again done = some session') : Turn context session session' := by
  simp only [write] at h
  split at h
  · cases h
  · next hw =>
    cases h
    exact .fail (.write hs hw)
  · next hw =>
    split at h
    · next hr =>
      cases h
      subst hr
      exact hd _ hw
    · next hr =>
      cases h
      exact .write hs hw hr

lemma turn_of_discard {first piece message : Bytes} {index : Nat} {reader : Record.Reader}
    {source : Source} (hp : session.phase = .discarding first index reader)
    (hr : session.link.far.source.read reader.missing = .got piece source)
    (hf : reader.feed context.setup.capacities.farRecord piece = .complete message) :
    Turn context session ((session.readFar source).discard first index message) := by
  simp only [discard]
  split
  · next hi => exact .discard hp hr hf hi
  · next hi =>
    simp only [reply]
    split
    · next hc => exact .fail (.composeReply hp hr hf hi hc)
    · next hc => exact .reply hp hr hf hi hc

lemma turn_of_proceed (h : session.proceed context = some session') :
    Turn context session session' := by
  simp only [proceed] at h
  split at h
  · next hp =>
    split at h
    · cases h
    · next hr =>
      cases h
      exact .closeEmpty hp hr
    · next hr =>
      cases h
      exact .fail (.await hp hr)
    · next hr =>
      cases h
      simp only [greet]
      split
      · next hc => exact .fail (.compose hp hr hc)
      · next hc => exact .dial hp hr hc
  · next hp =>
    split at h
    · cases h
    · next hd =>
      cases h
      exact .fail (.dial hp hd)
    · next hd =>
      cases h
      exact .connect hp hd
  · next hp => exact turn_of_write (.greeting hp) (fun _ hw => .greet hp hw) h
  · next hp =>
    split at h
    · cases h
    · next hr =>
      cases h
      exact .fail (.endEarly hp hr)
    · next hr =>
      cases h
      exact .fail (.read hp hr)
    · next hr =>
      split at h
      · next hf =>
        cases h
        exact .read hp hr hf
      · next hf =>
        cases h
        exact .fail (.tooLong hp hr hf)
      · next hf =>
        cases h
        exact turn_of_discard hp hr hf
  · next hp => exact turn_of_write (.reply hp) (fun _ hw => .forward hp hw) h
  · next hp => exact turn_of_write (.first hp) (fun _ hw => .establish hp hw) h
  · cases h
  · cases h
  · cases h
  · cases h

lemma turn_of_step (h : step context move session = some session') :
    Turn context session session' := by
  cases move with
  | proceed => exact turn_of_proceed h
  | relay move =>
    simp only [step] at h
    split at h
    · next hp =>
      obtain ⟨relay, hr, rfl⟩ := Option.map_eq_some_iff.mp h
      exact .relay hp (Relay.turn_of_step hr)
    · cases h

lemma Phase.Sends.rank {phase : Phase} {stage : Stage} {left : Bytes} {again : Bytes → Phase}
    (h : phase.Sends context stage left again) : 1 < phase.rank := by
  cases h <;> simp [*, Phase.rank]

lemma Fault.earlyData {stage : Stage} {error : IoError}
    (h : Fault context session stage error session') : session'.earlyData = session.earlyData := by
  cases h <;> rfl

lemma Fault.rank {stage : Stage} {error : IoError} (h : Fault context session stage error session') :
    1 < session.phase.rank := by
  cases h with
  | write hs _ => exact hs.rank
  | _ => simp [*, Phase.rank]

lemma Turn.rank (h : Turn context session session') :
    1 < session.phase.rank ∨ ∃ flow relay, session.phase = .relaying flow ∧
      Relay.Turn context.setup.capacities ⟨session.link, flow⟩ relay ∧
      session' = session.relayed relay flow := by
  cases h with
  | write hs _ _ => exact Or.inl hs.rank
  | fail hf => exact Or.inl hf.rank
  | relay hp ht => exact Or.inr ⟨_, _, hp, ht, rfl⟩
  | _ => exact Or.inl (by simp [*, Phase.rank])

section

variable (stage : Stage) (error : IoError) (relay : Relay) (flow : Relay.Flow) (session)

@[simp] lemma near_source_fail :
    (session.fail stage error).link.near.source = session.link.near.source :=
  Connection.source_release _

@[simp] lemma far_source_fail :
    (session.fail stage error).link.far.source = session.link.far.source :=
  Connection.source_release _

@[simp] lemma near_sink_fail : (session.fail stage error).link.near.sink = session.link.near.sink :=
  Connection.sink_release _

@[simp] lemma far_sink_fail : (session.fail stage error).link.far.sink = session.link.far.sink :=
  Connection.sink_release _

@[simp] lemma near_source_closeEmpty :
    session.closeEmpty.link.near.source = session.link.near.source := by
  simp [closeEmpty, Link.release]

@[simp] lemma far_source_closeEmpty :
    session.closeEmpty.link.far.source = session.link.far.source := by
  simp [closeEmpty, Link.release]

@[simp] lemma near_sink_closeEmpty : session.closeEmpty.link.near.sink = session.link.near.sink := by
  simp [closeEmpty, Link.release]

@[simp] lemma far_sink_closeEmpty : session.closeEmpty.link.far.sink = session.link.far.sink := by
  simp [closeEmpty, Link.release]

@[simp] lemma link_relayed : (session.relayed relay flow).link = relay.link := by
  simp only [relayed]
  split <;> rfl

@[simp] lemma earlyData_relayed :
    (session.relayed relay flow).earlyData = session.earlyData := by
  simp only [relayed]
  split <;> rfl

lemma phase_relayed :
    relay.isOver = false ∧ (session.relayed relay flow).phase = .relaying relay.flow ∨
      relay.isOver = true ∧
        (session.relayed relay flow).phase = .ended relay.flow.sent relay.flow.received := by
  simp only [relayed]
  split
  · next h => exact Or.inr ⟨h, rfl⟩
  · next h => exact Or.inl ⟨Bool.eq_false_iff.mpr h, rfl⟩

end

section

variable (happening : Happening) (session) (side : Side)

lemma chunks_notice : ((session.notice happening).link.on side).source.chunks =
    (session.link.on side).source.chunks ++ happening.arrived side := by
  cases happening with
  | link event => exact Link.chunks_apply event session.link side
  | dialed result => exact (List.append_nil _).symm

lemma taken_notice :
    ((session.notice happening).link.on side).sink.taken = (session.link.on side).sink.taken := by
  cases happening with
  | link event => simp only [notice, Sink.taken, Link.kept_apply event session.link side]
  | dialed result => rfl

end

def fresh (tape : Tape) (dial : Option DialResult) : Session := { link := {}, tape, dial }

def Context.narrow : Context where
  setup :=
    { localHost := "127.0.0.1", localPort := 1984, remoteHost := "proxy.example.com"
      remotePort := 443, serverName := "example.com", browser := .firefox, fastOpen := false
      replayWindow := .ofSeconds 60, key := .replicate 32 0, tag := .replicate 32 0
      capacities := ⟨2, 64⟩ }
  now := ⟨0, by decide, by decide⟩
  fastOpen := false

def advance (context : Context) (turns : Nat) (session : Session) : Session :=
  match turns with
  | 0 => session
  | turns + 1 =>
    match next context session with
    | none => session
    | some session => session.advance context turns

variable {start : Session} {happenings later : List Happening}

lemma Run.trans (h : Run context start happenings session) (h' : Run context session later session') :
    Run context start (happenings ++ later) session' := by
  induction h' with
  | start =>
    rw [List.append_nil]
    exact h
  | step move _ hs ih => exact .step move ih hs
  | notice happening _ ih =>
    rw [← List.append_assoc]
    exact .notice happening ih

lemma run_advance (context : Context) (turns : Nat) (session : Session) :
    Run context session [] (session.advance context turns) := by
  induction turns generalizing session with
  | zero => exact .start
  | succ turns ih =>
    simp only [advance]
    split
    · exact .start
    · next h =>
      obtain ⟨move, _, hm⟩ := List.exists_of_findSome?_eq_some h
      exact (Run.step move .start hm).trans (ih _)

end Camouflage.Session

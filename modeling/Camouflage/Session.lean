import Camouflage.Greeting
import Camouflage.Relay.Schedule

/-!
A session, from an accepted connection to its end. The first bytes from the near side cause a
greeting and a dial; the server's messages are read and thrown away; the reply and a record with the
first bytes follow; then the relay runs. Nothing is dialled for a connection that sends nothing.
-/

namespace Camouflage

namespace Session

inductive Stage
  | awaitingFirstData
  | dialing
  | sendingGreeting
  /-- Reading the server message with this index, counted from zero. -/
  | discardingMessage (index : Nat)
  | sendingReply
  | forwardingFirstPayload
  deriving DecidableEq, Repr

def Stage.text : Stage → String
  | .awaitingFirstData => "awaiting first local data"
  | .dialing => "dialing remote"
  | .sendingGreeting => "sending greeting"
  | .discardingMessage index =>
    "discarding server message " ++ toString (index + 1) ++ " of " ++
      toString Greeting.serverMessages
  | .sendingReply => "sending reply"
  | .forwardingFirstPayload => "forwarding first payload"

structure Failure where
  stage : Stage
  error : IoError
  deriving DecidableEq, Repr

def Failure.message (failure : Failure) : String :=
  "Session failed while " ++ failure.stage.text ++ ": " ++ failure.error.message

inductive Event
  | accepted
  | shutFailed (error : IoError)
  | closedEmpty
  | gotFirstData (length : Nat)
  | sentGreeting (length : Nat) (fastOpen : Bool)
  | discarded (index length : Nat)
  | established
  | stopped (stop : Relay.Stop)
  | ended (sent received : Nat)
  | failed (failure : Failure)
  deriving DecidableEq, Repr

def Event.entry : Event → Log.Entry
  | .accepted => ⟨.debug, "Accepted local connection", []⟩
  | .shutFailed error => ⟨.trace, "Failed to close local connection", [("error", error.message)]⟩
  | .closedEmpty => ⟨.debug, "Local connection closed without sending anything", []⟩
  | .gotFirstData length => ⟨.trace, "Got first local data", [("read", toString length)]⟩
  | .sentGreeting length fastOpen =>
    ⟨.debug, "Sent greeting", [("len", toString length), ("fast_open", toString fastOpen)]⟩
  | .discarded index length =>
    ⟨.trace, "Discarded server message", [("index", toString index), ("len", toString length)]⟩
  | .established => ⟨.info, "Session established", []⟩
  | .stopped stop => stop.entry
  | .ended sent received =>
    ⟨.info, "Session ended", [("sent", toString sent), ("received", toString received)]⟩
  | .failed failure =>
    ⟨.warn, "Session failed", [("stage", failure.stage.text), ("error", failure.error.message)]⟩

/-- From the first read on, `first` are the bytes that it gave. -/
inductive Phase
  | awaitingData
  | dialing (first greeting : Bytes)
  | greeting (first greeting left : Bytes)
  | discarding (first : Bytes) (index : Nat) (reader : Record.Reader)
  | replying (first left : Bytes)
  | forwarding (left : Bytes)
  | relaying (flow : Relay.Flow)
  | empty
  | failed (failure : Failure)
  | ended (sent received : Nat)
  deriving Repr

inductive DialResult
  | connected
  | failed (error : IoError)
  deriving DecidableEq, Repr

structure Context where
  setup : Setup
  now : Instant
  fastOpen : Bool

end Session

structure Session where
  link : Link
  tape : Tape
  /-- What dialling comes to, once that is known. -/
  dial : Option Session.DialResult
  phase : Session.Phase := .awaitingData
  dials : Nat := 0
  earlyData : List Bytes := []
  log : List Session.Event := [.accepted]
  deriving Repr

namespace Session

def report (event : Event) (session : Session) : Session :=
  { session with log := session.log ++ [event] }

def fail (stage : Stage) (error : IoError) (session : Session) : Session :=
  { session with
    link := session.link.release
    phase := .failed ⟨stage, error⟩
    log := session.log ++ [.failed ⟨stage, error⟩] }

def closeEmpty (session : Session) : Session :=
  let (near, error) := session.link.near.shut
  { session with
    link := { session.link with near }.release
    phase := .empty
    log := session.log ++ (error.map Event.shutFailed).toList ++ [.closedEmpty] }

def greet (context : Context) (first : Bytes) (session : Session) : Session :=
  match Greeting.compose context.setup context.now session.tape with
  | (.error error, tape) => { session with tape }.fail .sendingGreeting error
  | (.ok greeting, tape) =>
    { session with
      tape
      phase := .dialing first greeting
      dials := session.dials + 1
      earlyData := session.earlyData ++ if context.fastOpen then [greeting] else [] }

def reply (first : Bytes) (session : Session) : Session :=
  match Greeting.composeReply session.tape with
  | (.error error, tape) => { session with tape }.fail .sendingReply error
  | (.ok reply, tape) => { session with tape, phase := .replying first reply }

def discard (first : Bytes) (index : Nat) (message : Bytes) (session : Session) : Session :=
  let session := session.report (.discarded index message.length)
  if index + 1 < Greeting.serverMessages then
    { session with phase := .discarding first (index + 1) .start }
  else session.reply first

def write (stage : Stage) (left : Bytes) (again : Bytes → Phase) (done : Session → Session)
    (session : Session) : Option Session :=
  match session.link.far.sink.write left with
  | .waits => none
  | .failed error => some (session.fail stage error)
  | .took left sink =>
    let session := { session with link := { session.link with far := { session.link.far with sink } } }
    if left = [] then some (done session) else some { session with phase := again left }

/-- There is no turn where the session would wait, or has ended. -/
def proceed (context : Context) (session : Session) : Option Session :=
  match session.phase with
  | .awaitingData =>
    match session.link.near.source.read context.setup.capacities.nearRead with
    | .waits => none
    | .ended => some session.closeEmpty
    | .failed error => some (session.fail .awaitingFirstData error)
    | .got first source =>
      let link := { session.link with near := { session.link.near with source } }
      some (({ session with link }.report (.gotFirstData first.length)).greet context first)
  | .dialing first greeting =>
    match session.dial with
    | none => none
    | some (.failed error) => some (session.fail .dialing error)
    | some .connected =>
      some { session with
        link := { session.link with far := session.link.far.hold }
        phase := .greeting first greeting greeting }
  | .greeting first greeting left =>
    session.write (if context.fastOpen then .dialing else .sendingGreeting) left
      (.greeting first greeting) fun session =>
        { session with phase := .discarding first 0 .start }.report
          (.sentGreeting greeting.length context.fastOpen)
  | .discarding first index reader =>
    match session.link.far.source.read reader.missing with
    | .waits => none
    | .ended => some (session.fail (.discardingMessage index) .earlyEnd)
    | .failed error => some (session.fail (.discardingMessage index) error)
    | .got piece source =>
      let session :=
        { session with link := { session.link with far := { session.link.far with source } } }
      let capacity := context.setup.capacities.farRecord
      match reader.feed capacity piece with
      | .incomplete reader => some { session with phase := .discarding first index reader }
      | .tooLong header =>
        some (session.fail (.discardingMessage index) (.recordTooLong header capacity))
      | .complete message => some (session.discard first index message)
  | .replying first left =>
    session.write .sendingReply left (.replying first) fun session =>
      { session with phase := .forwarding (Record.frame .applicationData .tls12 first) }
  | .forwarding left =>
    session.write .forwardingFirstPayload left .forwarding fun session =>
      { session with phase := .relaying {} }.report .established
  | .relaying _ | .empty | .failed _ | .ended _ _ => none

def relayed (relay : Relay) (flow : Relay.Flow) (session : Session) : Session :=
  let stops := (relay.flow.stops.drop flow.stops.length).map Event.stopped
  let session :=
    { session with link := relay.link, phase := .relaying relay.flow, log := session.log ++ stops }
  if relay.isOver then
    let { sent, received, .. } := relay.flow
    { session with phase := .ended sent received }.report (.ended sent received)
  else session

inductive Move
  | proceed
  | relay (move : Relay.Move)
  deriving DecidableEq, Repr

def step (context : Context) (move : Move) (session : Session) : Option Session :=
  match move with
  | .proceed => session.proceed context
  | .relay move =>
    match session.phase with
    | .relaying flow =>
      (Relay.step context.setup.capacities ⟨session.link, flow⟩ move).map fun relay =>
        session.relayed relay flow
    | _ => none

def moves : List Move := .proceed :: Relay.moves.map .relay

def next (context : Context) (session : Session) : Option Session :=
  moves.findSome? fun move => step context move session

inductive Happening
  | link (event : Link.Event)
  | dialed (result : DialResult)
  deriving DecidableEq, Repr

def notice (happening : Happening) (session : Session) : Session :=
  match happening with
  | .link event => { session with link := session.link.apply event }
  | .dialed result => { session with dial := some result }

end Session

end Camouflage

import Camouflage.Session.Schedule

/-!
What a session that waits is waiting for, and running a session on connections on which nothing is
taken before it really was written.
-/

namespace Camouflage.Session

inductive Demand
  | read (side : Side) (room : Nat)
  | write (side : Side) (bytes : Bytes)
  | dial
  deriving DecidableEq, Repr

def Demand.ofOutbound (capacities : Capacities) : Relay.Outbound → List Demand
  | .reading => [.read .near capacities.nearRead]
  | .writing left _ => [.write .far left]
  | .ended => []

def Demand.ofInbound : Relay.Inbound → List Demand
  | .reading reader => [.read .far reader.missing]
  | .writing left _ => [.write .near left]
  | .ended => []

def demands (context : Context) (session : Session) : List Demand :=
  match session.phase with
  | .awaitingData => [.read .near context.setup.capacities.nearRead]
  | .dialing _ _ => [.dial]
  | .greeting _ _ left | .replying _ left | .forwarding left => [.write .far left]
  | .discarding _ _ reader => [.read .far reader.missing]
  | .relaying flow =>
    Demand.ofOutbound context.setup.capacities flow.outbound ++ Demand.ofInbound flow.inbound
  | .empty | .failed _ | .ended _ _ => []

def written (side : Side) (bytes : Bytes) : Happening :=
  .link (.limit side (some ⟨bytes.length, .stalls⟩))

def unwritten (side : Side) (error : IoError) : Happening :=
  .link (.limit side (some ⟨0, .fails error⟩))

def waiting (tape : Tape) : Session where
  link :=
    { near := { tenure := .held, sink := { limit := some ⟨0, .stalls⟩ } }
      far := { sink := { limit := some ⟨0, .stalls⟩ } } }
  tape
  dial := none

def forget (session : Session) : Session :=
  let clear connection : Connection := { connection with sink.pieces := [] }
  { session with link := ⟨clear session.link.near, clear session.link.far⟩, log := [] }

def Event.target : Event → String
  | .accepted | .closedEmpty | .established | .ended _ _ | .failed _ =>
    "gq_client::client::listener"
  | .stopped _ => "gq_client::client::relay"
  | .shutFailed _ | .gotFirstData _ | .sentGreeting _ _ | .discarded _ _ =>
    "gq_client::client::session"

end Camouflage.Session

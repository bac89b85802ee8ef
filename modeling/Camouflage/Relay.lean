import Camouflage.Log
import Camouflage.Record.Reader
import Camouflage.Relay.Pipe
import Camouflage.Setup

/-!
The relay between the two connections of a session. The outbound direction reads from the near side
and writes records to the far side; the inbound direction reads records from the far side and writes
their payloads to the near side. A direction that stops closes the pipe, and the other one stops too.

The directions take turns in any order. `Relay.step` is one turn; it gives none where it would wait.
-/

namespace Camouflage

inductive Direction
  | outbound
  | inbound
  deriving DecidableEq, Repr

def Direction.name : Direction → String
  | .outbound => "local to remote"
  | .inbound => "remote to local"

namespace Relay

/-- What the outbound direction is doing. While it writes, `size` bytes of payload are on their way. -/
inductive Outbound
  | reading
  | writing (left : Bytes) (size : Nat)
  | ended
  deriving Repr

inductive Inbound
  | reading (reader : Record.Reader)
  | writing (left : Bytes) (size : Nat)
  | ended
  deriving Repr

structure Stop where
  direction : Direction
  error : Option IoError
  deriving DecidableEq, Repr

def Stop.entry (stop : Stop) : Log.Entry :=
  match stop.error with
  | none => ⟨.debug, "Connection closed", [("direction", stop.direction.name)]⟩
  | some error =>
    ⟨.debug, "Relay stopped with error",
      [("direction", stop.direction.name), ("error", error.message)]⟩

structure Flow where
  /-- Each direction watches it. -/
  pipe : Pipe := (({} : Pipe).act .subscribe).act .subscribe
  outbound : Outbound := .reading
  inbound : Inbound := .reading .start
  /-- The payload bytes in records that the far side took in full. -/
  sent : Nat := 0
  received : Nat := 0
  stops : List Stop := []
  deriving Repr

end Relay

structure Relay where
  link : Link
  flow : Relay.Flow := {}
  deriving Repr

namespace Relay

def start (link : Link) : Relay where
  link := ⟨link.near.hold, link.far.hold⟩

def notice (event : Link.Event) (relay : Relay) : Relay :=
  { relay with link := relay.link.apply event }

/-- A direction heeds that the pipe is closed, or goes on with its work. -/
inductive Move
  | heed (direction : Direction)
  | proceed (direction : Direction)
  deriving DecidableEq, Repr

def isLive (direction : Direction) (flow : Flow) : Bool :=
  match direction with
  | .outbound => !(flow.outbound matches .ended)
  | .inbound => !(flow.inbound matches .ended)

def isOver (relay : Relay) : Bool := !isLive .outbound relay.flow && !isLive .inbound relay.flow

def Flow.stop (direction : Direction) (error : Option IoError) (flow : Flow) : Flow :=
  let stops := flow.stops ++ [(⟨direction, error⟩ : Stop)]
  let flow := { flow with pipe := flow.pipe.act .close, stops }
  match direction with
  | .outbound => { flow with outbound := .ended }
  | .inbound => { flow with inbound := .ended }

def stop (direction : Direction) (error : Option IoError) (relay : Relay) : Relay :=
  let relay := { relay with flow := relay.flow.stop direction error }
  if relay.isOver then { relay with link := relay.link.release } else relay

section

variable (capacities : Capacities) (relay : Relay)

def proceedOutbound : Option Relay :=
  let { link, flow } := relay
  match flow.outbound with
  | .ended => none
  | .reading =>
    match link.near.source.read capacities.nearRead with
    | .waits => none
    | .ended => some (relay.stop .outbound none)
    | .failed error => some (relay.stop .outbound (some error))
    | .got piece source =>
      let framed := Record.frame .applicationData .tls12 piece
      some {
        link := { link with near := { link.near with source } }
        flow := { flow with outbound := .writing framed piece.length } }
  | .writing left size =>
    match link.far.sink.write left with
    | .waits => none
    | .failed error => some (relay.stop .outbound (some error))
    | .took left sink =>
      let link := { link with far := { link.far with sink } }
      if left = [] then
        some { link, flow := { flow with outbound := .reading, sent := flow.sent + size } }
      else some { link, flow := { flow with outbound := .writing left size } }

/-- A far side that ends inside a record ends the direction as if it had ended between two. -/
def readingError (error : IoError) : Option IoError :=
  if error.kind = .unexpectedEof then none else some error

def proceedInbound : Option Relay :=
  let { link, flow } := relay
  match flow.inbound with
  | .ended => none
  | .reading reader =>
    match link.far.source.read reader.missing with
    | .waits => none
    | .ended => some (relay.stop .inbound (readingError .earlyEnd))
    | .failed error => some (relay.stop .inbound (readingError error))
    | .got piece source =>
      let link := { link with far := { link.far with source } }
      match reader.feed capacities.farRecord piece with
      | .incomplete reader => some { link, flow := { flow with inbound := .reading reader } }
      | .tooLong header =>
        let error := IoError.recordTooLong header capacities.farRecord
        some ({ link, flow : Relay }.stop .inbound (readingError error))
      | .complete payload =>
        if payload = [] then some { link, flow := { flow with inbound := .reading .start } }
        else some { link, flow := { flow with inbound := .writing payload payload.length } }
  | .writing left size =>
    match link.near.sink.write left with
    | .waits => none
    | .failed error => some (relay.stop .inbound (some error))
    | .took left sink =>
      let link := { link with near := { link.near with sink } }
      if left = [] then
        some {
          link
          flow := { flow with inbound := .reading .start, received := flow.received + size } }
      else some { link, flow := { flow with inbound := .writing left size } }

def step (move : Move) : Option Relay :=
  match move with
  | .heed direction =>
    if relay.flow.pipe.closed && isLive direction relay.flow then some (relay.stop direction none)
    else none
  | .proceed .outbound => proceedOutbound capacities relay
  | .proceed .inbound => proceedInbound capacities relay

end

def moves : List Move :=
  [.heed .outbound, .proceed .outbound, .heed .inbound, .proceed .inbound]

def next (capacities : Capacities) (relay : Relay) : Option Relay :=
  moves.findSome? (step capacities relay)

end Relay

end Camouflage

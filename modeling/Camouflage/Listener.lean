import Camouflage.Network
import Camouflage.Session.Schedule

/-!
A listener and the sessions of the connections that it accepted. They share the setup and the source
of random bytes; each runs until it waits whenever something happens to it.
-/

namespace Camouflage

structure Listener where
  context : Session.Context
  dialer : Dialer
  network : Network
  tape : Tape
  sessions : Array Session := #[]
  dialed : Array Nat := #[]

namespace Listener

def isDialed (session : Session) : Bool := session.link.far.tenure != .awaited

def run (index : Nat) (session : Session) (listener : Listener) : Listener :=
  let settled := { session with tape := listener.tape }.settle listener.context
  let dialed :=
    if isDialed settled && !isDialed session then listener.dialed.push index else listener.dialed
  { listener with
    tape := settled.tape
    sessions := listener.sessions.setIfInBounds index settled
    dialed }

/-- What dialling comes to before any early data goes out. -/
def dialResult (listener : Listener) : Session.DialResult :=
  match listener.dialer.dial listener.network none with
  | .ok _ => .connected
  | .error error => .failed error

def accept (listener : Listener) : Listener :=
  let session : Session := { link := {}, tape := listener.tape, dial := some listener.dialResult }
  { listener with sessions := listener.sessions.push session }.run listener.sessions.size session

def notice (index : Nat) (event : Link.Event) (listener : Listener) : Listener :=
  match listener.sessions[index]? with
  | none => listener
  | some session => listener.run index (session.notice (.link event))

end Listener

end Camouflage

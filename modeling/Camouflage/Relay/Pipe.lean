/-!
The signal by which one direction of a relay stops the other. It is given once and stays; whoever
looks at it or waits for it later finds it given.
-/

namespace Camouflage.Relay

structure Pipe where
  closed : Bool := false
  watchers : Nat := 0
  waiters : Nat := 0
  deriving DecidableEq, Repr

namespace Pipe

inductive Action
  | close
  | subscribe
  | wait
  deriving DecidableEq, Repr

def act (action : Action) (pipe : Pipe) : Pipe :=
  match action with
  | .close => { pipe with closed := true }
  | .subscribe => { pipe with watchers := pipe.watchers + 1 }
  | .wait => { pipe with waiters := pipe.waiters + 1 }

def seen (pipe : Pipe) : List Bool := List.replicate pipe.watchers pipe.closed

def woken (pipe : Pipe) : Nat := if pipe.closed then pipe.waiters else 0

end Pipe

end Camouflage.Relay

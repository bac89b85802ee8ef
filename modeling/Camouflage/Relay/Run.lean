import Camouflage.Relay

namespace Camouflage

def Link.Event.arrived (side : Side) : Link.Event → List Bytes
  | .arrive side' chunks => if side' = side then chunks else []
  | _ => []

namespace Relay

inductive Run (capacities : Capacities) (start : Relay) : List Link.Event → Relay → Prop
  | start : Run capacities start [] start
  | step {events : List Link.Event} {relay relay' : Relay} (move : Move) :
      Run capacities start events relay → step capacities relay move = some relay' →
        Run capacities start events relay'
  | notice {events : List Link.Event} {relay : Relay} (event : Link.Event) :
      Run capacities start events relay →
        Run capacities start (events ++ [event]) (relay.notice event)

end Relay

end Camouflage

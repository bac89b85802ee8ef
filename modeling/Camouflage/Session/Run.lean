import Camouflage.Relay.Run
import Camouflage.Session

namespace Camouflage.Session

def Happening.arrived (side : Side) : Happening → List Bytes
  | .link event => event.arrived side
  | .dialed _ => []

inductive Run (context : Context) (start : Session) : List Happening → Session → Prop
  | start : Run context start [] start
  | step {happenings : List Happening} {session session' : Session} (move : Move) :
      Run context start happenings session → step context move session = some session' →
        Run context start happenings session'
  | notice {happenings : List Happening} {session : Session} (happening : Happening) :
      Run context start happenings session →
        Run context start (happenings ++ [happening]) (session.notice happening)

end Camouflage.Session

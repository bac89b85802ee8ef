import Camouflage.EarlyData

namespace Camouflage

structure Endpoint where
  host : String
  port : UInt16
  deriving DecidableEq, Repr

def Endpoint.text (endpoint : Endpoint) : String :=
  let host := if endpoint.host.toList.contains ':' then "[" ++ endpoint.host ++ "]" else endpoint.host
  host ++ ":" ++ toString endpoint.port

/-- Port 0 stands for any that is free. -/
def isReserved (port : UInt16) : Bool := 0 < port && port < 1024

structure Network where
  bindError : String → Option ErrorNumber
  connectError : Endpoint → Option ErrorNumber
  privileged : Bool := false
  /-- What a new connection answers to the first sends of early data. After these it takes all. -/
  answers : Endpoint → List EarlyData.Answer := fun _ => []

namespace Network

variable (network : Network)

def bind (bound : List Endpoint) (endpoint : Endpoint) : Except IoError Unit :=
  if isReserved endpoint.port && !network.privileged then .error (.system .accessDenied)
  else
    match network.bindError endpoint.host with
    | some number => .error (.system number)
    | none => if endpoint ∈ bound then .error (.system .addressInUse) else .ok ()

def connect (endpoint : Endpoint) : Except IoError Unit :=
  match network.connectError endpoint with
  | some number => .error (.system number)
  | none => .ok ()

def sendEarly (endpoint : Endpoint) (data : Bytes) : Except IoError Bytes :=
  let (attempts, result) := EarlyData.send data (network.answers endpoint ++ [.took data.length])
  match result with
  | .failed error => .error error
  | .sent | .unfinished _ => .ok (EarlyData.accepted attempts)

end Network

structure Dialer where
  target : Endpoint
  fastOpen : Bool
  protection : Option IoError := none
  deriving DecidableEq, Repr

structure Dialed where
  noDelay : Bool
  sent : Bytes
  deriving DecidableEq, Repr

namespace Dialer

variable (network : Network) (dialer : Dialer)

def connect : Except IoError Unit :=
  match dialer.protection with
  | some error => .error error
  | none => network.connect dialer.target

def dial (early : Option Bytes) : Except IoError Dialed :=
  match dialer.connect network with
  | .error error => .error error
  | .ok _ => (network.sendEarly dialer.target (early.getD [])).map fun sent => ⟨true, sent⟩

end Dialer

end Camouflage

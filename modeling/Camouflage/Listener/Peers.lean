import Camouflage.Listener

namespace Camouflage.Listener

structure Peer where
  session : Nat
  side : Side
  position : Nat := 0
  deriving DecidableEq, Repr

inductive Action
  | connect
  | accept
  | send (bytes : Bytes)
  | read (count : Nat)
  | readToEnd
  | close
  deriving DecidableEq, Repr

inductive Reply
  | done
  | bytes (bytes : Bytes)
  | failed (error : IoError)
  | unknownName
  | waits
  deriving DecidableEq, Repr

structure Peers where
  listener : Listener
  endpoint : Endpoint
  named : List (String × Peer) := []
  accepted : Nat := 0

namespace Peers

def rename (name : String) (peer : Peer) (peers : Peers) : Peers :=
  { peers with named := (name, peer) :: peers.named.filter (·.1 ≠ name) }

def connection? (peers : Peers) (peer : Peer) : Option Connection :=
  peers.listener.sessions[peer.session]?.map fun session =>
    match peer.side with
    | .near => session.link.near
    | .far => session.link.far

def unread (peers : Peers) (peer : Peer) : Bytes × Bool :=
  match peers.connection? peer with
  | none => ([], false)
  | some connection => (connection.sink.taken.drop peer.position, connection.tenure = .held)

def actOn (name : String) (peer : Peer) (action : Action) (peers : Peers) : Peers × Reply :=
  let notice event := { peers with listener := peers.listener.notice peer.session event }
  let (unread, more) := peers.unread peer
  match action with
  | .send bytes => (notice (.arrive peer.side (Bytes.cut 0 bytes)), .done)
  | .close => (notice (.finish peer.side .closed), .done)
  | .read count =>
    if count ≤ unread.length then
      (peers.rename name { peer with position := peer.position + count }, .bytes (unread.take count))
    else if more then (peers, .waits)
    else (peers, .failed .earlyEnd)
  | .readToEnd =>
    if more then (peers, .waits)
    else (peers.rename name { peer with position := peer.position + unread.length }, .bytes unread)
  | .connect | .accept => (peers, .unknownName)

def act (name : String) (action : Action) (peers : Peers) : Peers × Reply :=
  match action with
  | .connect =>
    match peers.listener.network.connect peers.endpoint with
    | .error error => (peers, .failed error)
    | .ok _ =>
      let peer := { session := peers.listener.sessions.size, side := .near }
      ({ peers with listener := peers.listener.accept }.rename name peer, .done)
  | .accept =>
    match peers.listener.dialed[peers.accepted]? with
    | none => (peers, .waits)
    | some session =>
      ({ peers with accepted := peers.accepted + 1 }.rename name { session, side := .far }, .done)
  | action =>
    match peers.named.lookup name with
    | none => (peers, .unknownName)
    | some peer => peers.actOn name peer action

end Peers

end Camouflage.Listener

import Camouflage.Program
import Camouflage.Session.Demand
import Std.Async.DNS
import Std.Async.TCP
import Std.Sync.Channel

/-!
The command line: it gives the program its arguments, its environment and its files, prints what it
says, and carries out on real sockets what its sessions wait for.
-/

namespace Camouflage.Main

open Std.Async (Async await background)
open Std.Async.TCP.Socket (Client Server)
open Std.Net (IPAddr SocketAddress)

/-- The number of a system error. Errors of sockets come with the number negated. -/
def errorNumber (code : UInt32) : ErrorNumber :=
  if code.toNat < UInt32.size / 2 then code.toNat else UInt32.size - code.toNat

def ioError : IO.Error → IoError
  | .alreadyExists _ code _ | .otherError code _ | .resourceBusy code _ | .resourceVanished code _
  | .unsupportedOperation code _ | .hardwareFault code _ | .unsatisfiedConstraints code _
  | .illegalOperation code _ | .protocolError code _ | .timeExpired code _ | .interrupted _ code _
  | .noFileOrDirectory _ code _ | .invalidArgument _ code _ | .permissionDenied _ code _
  | .resourceExhausted _ code _ | .inappropriateType _ code _ | .noSuchThing _ code _ =>
    .system (errorNumber code)
  | .unexpectedEof => .earlyEnd
  | .userError _ => .ofKind .other

def environment : IO Environment := do
  let names := [
    Settings.localHostVariable, Settings.localPortVariable, Settings.remoteHostVariable,
    Settings.remotePortVariable, Settings.optionsVariable, Program.levelVariable]
  let values ← names.mapM fun name => return (name, ← IO.getEnv name)
  return fun name => (values.lookup name).join

def readFile (path : String) : IO (Except IoError Bytes) :=
  if path.toList.contains '\x00' then return .error .nulInName
  else
    try return .ok (← IO.FS.readBinFile path).toList
    catch error => return .error (ioError error)

def files (environment : Environment) (words : List String) : IO Options.Files := do
  match Program.optionsFile? environment words with
  | none => return fun _ => .error (.system .noEntry)
  | some path =>
    let content ← readFile path
    return fun _ => content

def randomBytes (count : USize) : IO Tape :=
  try return (← IO.getRandomBytes count).toList
  catch _ => return []

def now? : IO (Option Instant) := do
  let time := (← Std.Time.Timestamp.now).toDurationSinceUnixEpoch
  return Instant.ofParts? 0 (time.toNanoseconds.val.toNat)

def logLine (rank : Nat) (target : String) (entry : Log.Entry) : IO Unit :=
  if entry.level.rank ≤ rank then IO.eprintln (entry.line target) else return ()

def logEvent (rank : Nat) (event : Program.Event) : IO Unit := logLine rank event.target event.entry

def socketAddress (port : UInt16) : IPAddr → SocketAddress
  | .v4 addr => .v4 { addr, port }
  | .v6 addr => .v6 { addr, port }

def resolve (endpoint : Endpoint) : Async (Array SocketAddress) :=
  return (← Std.Async.DNS.getAddrInfo endpoint.host (toString endpoint.port)).map
    (socketAddress endpoint.port)

def firstOf {α : Type} (addresses : Array SocketAddress) (attempt : SocketAddress → Async α) :
    Async (Except IoError α) := do
  let mut last := IoError.ofKind .notFound
  for address in addresses do
    try return .ok (← attempt address)
    catch error => last := ioError error
  return .error last

def connect (address : SocketAddress) : Async Client := do
  let socket ← Client.mk
  socket.connect address
  socket.noDelay
  return socket

def listen (address : SocketAddress) : Async Server := do
  let server ← Server.mk
  server.bind address
  server.listen 1024
  return server

structure Sockets where
  near : Client
  far : IO.Ref (Option Client)

def Sockets.get (side : Side) (sockets : Sockets) : IO Client :=
  match side with
  | .near => return sockets.near
  | .far => do
    match ← sockets.far.get with
    | some socket => return socket
    | none => throw (IO.userError "not connected")

def Sockets.abandon (sockets : Sockets) : Async Unit := do
  sockets.near.native.cancelRecv
  if let some far ← sockets.far.get then far.native.cancelRecv

def answer (remote : Endpoint) (sockets : Sockets) :
    Session.Demand → Async Session.Happening
  | .read side room =>
    try
      match ← (← sockets.get side).recv? room.toUInt64 with
      | some bytes => return .link (.arrive side [bytes.toList])
      | none => return .link (.finish side .closed)
    catch error => return .link (.finish side (.failed (ioError error)))
  | .write side bytes =>
    try
      (← sockets.get side).send ⟨bytes.toArray⟩
      return Session.written side bytes
    catch error => return Session.unwritten side (ioError error)
  | .dial =>
    try
      match ← firstOf (← resolve remote) connect with
      | .ok socket =>
        sockets.far.set (some socket)
        return .dialed .connected
      | .error error => return .dialed (.failed error)
    catch error => return .dialed (.failed (ioError error))

def serve (setup : Setup) (rank : Nat) (near : Client) : Async Unit := do
  let sockets : Sockets := ⟨near, ← IO.mkRef none⟩
  let inbox ← Std.CloseableChannel.new
  let mut session := Session.waiting (← randomBytes 92)
  let mut awaited : List Session.Demand := []
  repeat
    let some now ← now? | break
    let context : Session.Context := { setup, now, fastOpen := setup.fastOpen }
    session := session.settle context
    for event in session.log do logLine rank event.target event.entry
    session := session.forget
    let demands := session.demands context
    if demands = [] then break
    for demand in demands do
      unless demand ∈ awaited do
        awaited := demand :: awaited
        background do
          let happening ← answer ⟨setup.remoteHost, setup.remotePort⟩ sockets demand
          discard (inbox.send (demand, happening))
    let some (demand, happening) ← await (← inbox.recv) | break
    awaited := awaited.erase demand
    session := session.notice happening
  if session.link.near.isShut then
    try near.shutdown catch _ => pure ()
  sockets.abandon

def acceptAll (setup : Setup) (rank : Nat) (server : Server) : Async IoError := do
  repeat
    try
      let client ← server.accept
      try client.noDelay catch _ => pure ()
      background (serve setup rank client)
    catch error =>
      let error := ioError error
      if error.isListenerBroken then
        logEvent rank (.listenerBroken error)
        return error
      logEvent rank (.acceptFailed error)
      if let some delay := error.acceptBackoff then IO.sleep delay.toUInt32
  return .ofKind .other

def bind (setup : Setup) (rank : Nat) : Async Unit := do
  let near : Endpoint := ⟨setup.localHost, setup.localPort⟩
  try
    match ← firstOf (← resolve near) listen with
    | .error error => IO.eprint (Program.bound setup rank near (.error error)).errors
    | .ok server =>
      IO.eprint (Program.bound setup rank near (.ok ())).errors
      logEvent rank (.stopped (← acceptAll setup rank server))
  catch error => logEvent rank (.stopped (ioError error))

def run (arguments : List String) : IO UInt32 := do
  let words := Program.name :: arguments
  let environment ← environment
  let run := Program.begin {
    environment
    files := ← files environment words
    tape := ← randomBytes 32
    platform := "linux x86_64" } words
  IO.print run.output
  IO.eprint run.errors
  match run.next with
  | .exit code => return code.toUInt32
  | .bind setup rank | .serve setup rank =>
    (bind setup rank).block
    return 1

end Camouflage.Main

def main (arguments : List String) : IO UInt32 := Camouflage.Main.run arguments

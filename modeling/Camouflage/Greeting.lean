import Camouflage.IoError
import Camouflage.Setup

/-!
The two messages with which we open a session: the greeting, a record with a hello that is bound to
the current time, and the reply, with which we end our part of the handshake.
-/

namespace Camouflage

/-- A draw that fails takes nothing, but those before it count. -/
abbrev Drawn (α : Type) := Except IoError α × Tape

namespace Greeting

def serverMessages : Nat := 3

variable (setup : Setup)

def hello (index : UInt64) (salt : Salt) (sessionId : Vector UInt8 32) (grease : Vector UInt8 4) :
    ClientHello :=
  .build {
    browser := setup.browser
    serverName := setup.serverName
    random := Token.randomField sha256 setup.key index salt
    sessionId
    ticket := Token.sessionTicket hmacSha256 setup.key setup.tag index
    grease := .ofBytes grease }

def compose (now : Instant) (tape : Tape) : Drawn Bytes :=
  match tape.draw? 16 with
  | none => (.error .noRandomness, tape)
  | some (salt, tape) =>
    match tape.draw? 32 with
    | none => (.error .noRandomness, tape)
    | some (sessionId, tape) =>
      match tape.draw? 4 with
      | none => (.error .noRandomness, tape)
      | some (grease, tape) =>
        let hello := hello setup (now.windowIndex setup.replayWindow) salt sessionId grease
        (.ok (Record.frame .handshake .tls10 hello.encode), tape)

/-- There are as many random bytes as in a real finished message. -/
def composeReply (tape : Tape) : Drawn Bytes :=
  match tape.draw? 40 with
  | none => (.error .noRandomness, tape)
  | some (finished, tape) =>
    (.ok (Record.frame .changeCipherSpec .tls12 [1] ++ Record.frame .handshake .tls12 finished.toList),
      tape)

inductive Step
  | hello
  | reply
  | setClock (now : Instant)

structure Supplies where
  now : Instant
  tape : Tape

def act (supplies : Supplies) : Step → Option (Except IoError Bytes) × Supplies
  | .setClock now => (none, { supplies with now })
  | .hello =>
    let (message, tape) := compose setup supplies.now supplies.tape
    (some message, { supplies with tape })
  | .reply =>
    let (message, tape) := composeReply supplies.tape
    (some message, { supplies with tape })

def run (supplies : Supplies) : List Step → List (Except IoError Bytes) × Supplies
  | [] => ([], supplies)
  | step :: steps =>
    let (message, supplies) := act setup supplies step
    let (messages, supplies) := run supplies steps
    (message.toList ++ messages, supplies)

end Greeting

end Camouflage

import Camouflage.ClientHello
import Camouflage.Options.Load
import Camouflage.Settings
import Camouflage.Tape

namespace Camouflage

structure Capacities where
  /-- The most that is read from the near side at once, and so goes into records together. -/
  nearRead : Nat := 10240
  /-- The longest payload of a record that is accepted from the far side. -/
  farRecord : Nat := 20480
  deriving DecidableEq, Repr

structure Setup where
  localHost : String
  localPort : UInt16
  remoteHost : String
  remotePort : UInt16
  serverName : String
  browser : Browser
  fastOpen : Bool
  replayWindow : Span
  key : Key
  tag : Tag
  capacities : Capacities

namespace Setup

def make (settings : Settings) (options : Options) (tape : Tape) :
    Except ConfigError (Setup × Tape) :=
  match settings.localPort, settings.remoteHost with
  | none, _ => .error .missingLocalPort
  | some _, none => .error .missingRemoteHost
  | some localPort, some remoteHost =>
    let nameLength := (Bytes.ofString options.serverName).length
    if options.key = "" then .error .emptyKey
    else if options.ticketTimeHint = 0 then .error .zeroTicketTimeHint
    else if ClientHello.maxServerName < nameLength then .error (.serverNameTooLong nameLength)
    else
      match tape.draw? 32 with
      | none => .error .noRandomness
      | some (tag, tape) =>
        .ok ({ localHost := settings.localHost
               localPort
               remoteHost
               remotePort := settings.remotePort
               serverName := options.serverName
               browser := options.browser
               fastOpen := options.fastOpen
               replayWindow := .ofSeconds options.ticketTimeHint.toNat
               key := Token.deriveKey sha256 options.key
               tag
               capacities := {} }, tape)

def settings (arguments : Arguments) (environment : Environment) : Except ConfigError Settings :=
  match Settings.ofEnvironment environment with
  | .error error => .error error
  | .ok (some settings) => .ok settings
  | .ok none => .ok (.ofArguments arguments)

def build (arguments : Arguments) (environment : Environment) (files : Options.Files) (tape : Tape) :
    Except ConfigError (Setup × Tape) :=
  match settings arguments environment with
  | .error error => .error error
  | .ok settings =>
    match Options.load files settings.options with
    | .error error => .error error
    | .ok options => make settings options tape

end Setup

end Camouflage

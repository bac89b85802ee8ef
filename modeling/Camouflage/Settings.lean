import Camouflage.Arguments
import Camouflage.ConfigError

/-!
Where to listen, where to connect, and where the options are. A parent proxy gives the settings in
the environment; otherwise they come from the command line.
-/

namespace Camouflage

structure Settings where
  localHost : String
  localPort : Option UInt16
  remoteHost : Option String
  remotePort : UInt16
  options : String
  deriving DecidableEq, Repr

abbrev Environment := String → Option String

namespace Settings

def localHostVariable : String := "SS_LOCAL_HOST"

def localPortVariable : String := "SS_LOCAL_PORT"

def remoteHostVariable : String := "SS_REMOTE_HOST"

def remotePortVariable : String := "SS_REMOTE_PORT"

def optionsVariable : String := "SS_PLUGIN_OPTIONS"

def defaultLocalHost : String := "127.0.0.1"

def nonEmpty (environment : Environment) (name : String) : Option String :=
  (environment name).filter (· ≠ "")

def portOfText (name value : String) : Except ConfigError (Option UInt16) :=
  let text := Text.trim value.toList
  if text = [] then .ok none
  else
    match Decimal.read Port.largest text with
    | .ok 0 | .error _ => .error (.invalidPort name value)
    | .ok port => .ok (some (UInt16.ofNat port))

def port (environment : Environment) (name : String) : Except ConfigError (Option UInt16) :=
  match environment name with
  | none => .ok none
  | some value => portOfText name value

def ofEnvironment (environment : Environment) : Except ConfigError (Option Settings) :=
  match nonEmpty environment localHostVariable with
  | none => .ok none
  | some localHost =>
    match port environment localPortVariable with
    | .error error => .error error
    | .ok localPort =>
      match port environment remotePortVariable with
      | .error error => .error error
      | .ok remotePort =>
        .ok (some {
          localHost
          localPort
          remoteHost := nonEmpty environment remoteHostVariable
          remotePort := remotePort.getD Arguments.defaultRemotePort
          options := (nonEmpty environment optionsVariable).getD Arguments.defaultOptions })

def ofArguments (arguments : Arguments) : Settings where
  localHost := defaultLocalHost
  localPort := arguments.localPort
  remoteHost := arguments.remoteHost
  remotePort := arguments.remotePort
  options := arguments.options

end Settings

end Camouflage

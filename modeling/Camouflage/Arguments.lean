import Camouflage.Port
import Camouflage.Text.Ascii

/-!
The command line. Short flags are case-sensitive, long ones are not; empty arguments are skipped.
-/

namespace Camouflage

inductive Verbosity
  | quiet
  | normal
  | verbose
  deriving DecidableEq, Repr

structure Arguments where
  verbosity : Verbosity
  localPort : Option UInt16
  remoteHost : Option String
  remotePort : UInt16
  options : String
  deriving DecidableEq, Repr

inductive Request
  | help
  | version
  | run (arguments : Arguments)
  deriving DecidableEq, Repr

inductive Flag
  | help
  | version
  | verbosity (verbosity : Verbosity)
  | localPort
  | remotePort
  | remoteHost
  | options
  deriving DecidableEq, Repr

inductive ArgumentError
  | unknown (argument : String)
  | missingPort (flag : String)
  | badPort (fault : Port.Fault) (flag value : String)
  | missingHost (flag : String)
  | missingOptions (flag : String)
  | conflictingVerbosity (flag : String)
  deriving DecidableEq, Repr

def ArgumentError.message : ArgumentError → String
  | .unknown argument => "Unknown argument: " ++ argument
  | .missingPort flag => "Expected port number after " ++ flag
  | .badPort .zero flag value => "Port number must be greater than 0 after " ++ flag ++ ": " ++ value
  | .badPort .tooLarge flag value =>
    "Port number must be at most 16 bits after " ++ flag ++ ": " ++ value
  | .badPort .malformed flag value => "Invalid port number after " ++ flag ++ ": " ++ value
  | .missingHost flag => "Expected host name or address after " ++ flag
  | .missingOptions flag => "Expected config file path or plugin options after " ++ flag
  | .conflictingVerbosity flag => "Cannot specify both --verbose and --quiet, found " ++ flag

namespace Flag

def table : List (Option String × String × Flag) := [
  (some "-h", "--help", .help),
  (some "-v", "--version", .version),
  (none, "--verbose", .verbosity .verbose),
  (none, "--quiet", .verbosity .quiet),
  (some "-l", "--local-port", .localPort),
  (some "-p", "--remote-port", .remotePort),
  (some "-s", "--remote-host", .remoteHost),
  (some "-c", "--config", .options)]

def ofText? (text : String) : Option Flag :=
  (table.find? fun (short, long, _) =>
    short == some text || Text.sameIgnoringCase text.toList long.toList).map (·.2.2)

end Flag

namespace Arguments

def defaultRemotePort : UInt16 := 443

def defaultOptions : String := "gqclient.json"

def initial : Arguments where
  verbosity := .normal
  localPort := none
  remoteHost := none
  remotePort := defaultRemotePort
  options := ""

def withDefaults (arguments : Arguments) : Arguments :=
  if arguments.options = "" then { arguments with options := defaultOptions } else arguments

def setVerbosity (flag : String) (verbosity : Verbosity) (arguments : Arguments) :
    Except ArgumentError Arguments :=
  if arguments.verbosity = .normal ∨ arguments.verbosity = verbosity then
    .ok { arguments with verbosity }
  else .error (.conflictingVerbosity flag)

def port (flag value : String) : Except ArgumentError UInt16 :=
  match Port.ofText value.toList with
  | .ok port => .ok port
  | .error fault => .error (.badPort fault flag value)

end Arguments

namespace Request

def parseFrom (arguments : Arguments) : List String → Except ArgumentError Request
  | [] => .ok (.run arguments.withDefaults)
  | argument :: rest =>
    if argument = "" then parseFrom arguments rest
    else
      match Flag.ofText? argument, rest with
      | none, _ => .error (.unknown argument)
      | some .help, _ => .ok .help
      | some .version, _ => .ok .version
      | some (.verbosity verbosity), rest =>
        match arguments.setVerbosity argument verbosity with
        | .error error => .error error
        | .ok arguments => parseFrom arguments rest
      | some .localPort, [] | some .remotePort, [] => .error (.missingPort argument)
      | some .localPort, value :: rest =>
        match Arguments.port argument value with
        | .error error => .error error
        | .ok port => parseFrom { arguments with localPort := some port } rest
      | some .remotePort, value :: rest =>
        match Arguments.port argument value with
        | .error error => .error error
        | .ok remotePort => parseFrom { arguments with remotePort } rest
      | some .remoteHost, [] => .error (.missingHost argument)
      | some .remoteHost, host :: rest =>
        if host = "" then .error (.missingHost argument)
        else parseFrom { arguments with remoteHost := some host } rest
      | some .options, [] => .error (.missingOptions argument)
      | some .options, options :: rest =>
        if options = "" then .error (.missingOptions argument)
        else parseFrom { arguments with options } rest

def parse (words : List String) : Except ArgumentError Request := parseFrom .initial words.tail

end Request

end Camouflage

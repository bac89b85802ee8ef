import Camouflage.Network
import Camouflage.Setup
import Camouflage.Log

namespace Camouflage.Program

def name : String := "gq-client"

def version : String := "0.1.0"

def versionText (platform : String) : String := name ++ " " ++ version ++ " (" ++ platform ++ ")"

def helpText : String :=
  "Usage: " ++ name ++ " [options]\n" ++
  "\n" ++
  "When the SS_LOCAL_HOST environment variable is set, the endpoints and plugin options are\n" ++
  "taken from SS_LOCAL_HOST, SS_LOCAL_PORT, SS_REMOTE_HOST, SS_REMOTE_PORT and SS_PLUGIN_OPTIONS\n" ++
  "and the options below (except for logging) are ignored.\n" ++
  "\n" ++
  "Options:\n" ++
  "  -h, --help                    Print this help menu and exit\n" ++
  "  -v, --version                 Print the version number and exit\n" ++
  "  -l, --local-port <port>       The port to listen on for the local tunneling client\n" ++
  "  -s, --remote-host <host>      The address of the proxy server\n" ++
  "  -p, --remote-port <port>      The proxy server's port (default 443)\n" ++
  "  -c, --config <path|options>   Path to the JSON config file, or inline Key=Value;... options\n" ++
  "                                (default gqclient.json)\n" ++
  "      --verbose                 Print debug information\n" ++
  "      --quiet                   Only print errors\n"

def usageText (error : ArgumentError) : String :=
  error.message ++ "\n\nType '" ++ name ++ " --help' for a help menu"

inductive Event
  | fromEnvironment
  | fromArguments
  | badConfiguration (error : ConfigError)
  | bindFailed (endpoint : Endpoint) (error : IoError)
  | listening (near far : Endpoint) (browser : Browser) (fastOpen : Bool)
  | acceptFailed (error : IoError)
  | listenerBroken (error : IoError)
  | stopped (error : IoError)
  deriving DecidableEq, Repr

def Event.entry : Event → Log.Entry
  | .fromEnvironment =>
    ⟨.info, "Running as a plugin, taking the configuration from the environment", []⟩
  | .fromArguments => ⟨.info, "SS_LOCAL_HOST not set, running standalone", []⟩
  | .badConfiguration error => ⟨.error, "Invalid configuration", [("error", error.message)]⟩
  | .bindFailed endpoint error =>
    ⟨.debug, "Failed to bind", [("address", endpoint.text), ("error", error.message)]⟩
  | .listening near far browser fastOpen =>
    ⟨.info, "Listening for connections",
      [("local", near.text), ("remote", far.host ++ ":" ++ toString far.port),
        ("browser", browser.name), ("fast_open", toString fastOpen)]⟩
  | .acceptFailed error =>
    ⟨.warn, "Error accepting new incoming connection", [("error", error.message)]⟩
  | .listenerBroken error =>
    ⟨.error, "Listener can no longer accept connections", [("error", error.message)]⟩
  | .stopped error => ⟨.error, "Program finished with error", [("error", error.message)]⟩

def Event.target : Event → String
  | .bindFailed _ _ => "gq_client::transport::listener"
  | .acceptFailed _ | .listenerBroken _ => "gq_client::client::listener"
  | _ => "gq_client"

def Event.line (event : Event) : String := event.entry.line event.target

/-- The variable whose level takes the place of the one that the command line asks for. -/
def levelVariable : String := "RUST_LOG"

def Verbosity.rank : Verbosity → Nat
  | .quiet => Log.Level.rank .error
  | .normal => Log.Level.rank .info
  | .verbose => Log.Level.rank .debug

/-- A level stands as its name, in any ASCII case, or as its rank in digits. Any other text, the empty
one as well, lets nothing be logged. -/
def rankOfText (text : String) : Nat :=
  let names := [("off", 0), ("error", 1), ("warn", 2), ("info", 3), ("debug", 4), ("trace", 5)]
  match names.find? fun (name, _) => Text.sameIgnoringCase text.toList name.toList with
  | some (_, rank) => rank
  | none =>
    match Decimal.readDigits 5 0 text.toList with
    | .ok rank => rank
    | .error _ => 0

def logRank (verbosity : Verbosity) (environment : Environment) : Nat :=
  match environment levelVariable with
  | some text => rankOfText text
  | none => Verbosity.rank verbosity

def optionsFile? (environment : Environment) (words : List String) : Option String :=
  match Request.parse words with
  | .ok (.run arguments) =>
    match Setup.settings arguments environment with
    | .ok settings => if Options.isInline settings.options then none else some settings.options
    | .error _ => none
  | _ => none

structure World where
  environment : Environment
  files : Options.Files
  tape : Tape
  platform : String

inductive Next
  | exit (code : Nat)
  | bind (setup : Setup) (rank : Nat)
  | serve (setup : Setup) (rank : Nat)

structure Run where
  output : String := ""
  errors : String := ""
  next : Next := .exit 0

def logged (rank : Nat) (events : List Event) : String :=
  String.join ((events.filter (·.entry.level.rank ≤ rank)).map fun event => event.line ++ "\n")

def configure (world : World) (arguments : Arguments) : List Event × Option Setup :=
  match Settings.ofEnvironment world.environment with
  | .error error => ([.badConfiguration error], none)
  | .ok found =>
    let origin := if found.isSome then Event.fromEnvironment else .fromArguments
    match Setup.build arguments world.environment world.files world.tape with
    | .error error => ([origin, .badConfiguration error], none)
    | .ok (setup, _) => ([origin], some setup)

def begin (world : World) (words : List String) : Run :=
  match Request.parse words with
  | .error error => { errors := usageText error ++ "\n", next := .exit 1 }
  | .ok .help => { output := helpText ++ "\n" }
  | .ok .version => { output := versionText world.platform ++ "\n" }
  | .ok (.run arguments) =>
    let rank := logRank arguments.verbosity world.environment
    let (events, setup) := configure world arguments
    { errors := logged rank events
      next := match setup with
        | none => .exit 1
        | some setup => .bind setup rank }

def bound (setup : Setup) (rank : Nat) (near : Endpoint) : Except IoError Unit → Run
  | .error error =>
    { errors := logged rank [.bindFailed near error, .stopped error], next := .exit 1 }
  | .ok _ =>
    let far : Endpoint := ⟨setup.remoteHost, setup.remotePort⟩
    { errors := logged rank [.listening near far setup.browser setup.fastOpen]
      next := .serve setup rank }

def run (world : World) (network : Network) (words : List String) : Run :=
  let first := begin world words
  match first.next with
  | .bind setup rank =>
    let near : Endpoint := ⟨setup.localHost, setup.localPort⟩
    let second := bound setup rank near (network.bind [] near)
    { second with output := first.output ++ second.output, errors := first.errors ++ second.errors }
  | _ => first

end Camouflage.Program

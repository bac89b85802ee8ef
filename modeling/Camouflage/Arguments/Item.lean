import Camouflage.Arguments

namespace Camouflage

namespace Flag

def IsLong (form word : String) : Prop := Text.sameIgnoringCase word.toList form.toList

def IsWord (flag : Flag) (word : String) : Prop :=
  match flag with
  | .help => word = "-h" ∨ IsLong "--help" word
  | .version => word = "-v" ∨ IsLong "--version" word
  | .verbosity .quiet => IsLong "--quiet" word
  | .verbosity .normal => False
  | .verbosity .verbose => IsLong "--verbose" word
  | .localPort => word = "-l" ∨ IsLong "--local-port" word
  | .remotePort => word = "-p" ∨ IsLong "--remote-port" word
  | .remoteHost => word = "-s" ∨ IsLong "--remote-host" word
  | .options => word = "-c" ∨ IsLong "--config" word

end Flag

namespace Arguments

inductive Item
  | nothing
  | verbosity (level : Verbosity)
  | localPort (port : UInt16)
  | remotePort (port : UInt16)
  | remoteHost (host : String)
  | options (text : String)
  deriving DecidableEq, Repr

namespace Item

inductive Written : Item → List String → Prop
  | nothing : Written .nothing [""]
  | verbosity {level word} : (Flag.verbosity level).IsWord word → Written (.verbosity level) [word]
  | localPort {port word value} : Flag.localPort.IsWord word →
      Port.Denotes value.toList port → Written (.localPort port) [word, value]
  | remotePort {port word value} : Flag.remotePort.IsWord word →
      Port.Denotes value.toList port → Written (.remotePort port) [word, value]
  | remoteHost {host word} : Flag.remoteHost.IsWord word → host ≠ "" →
      Written (.remoteHost host) [word, host]
  | options {text word} : Flag.options.IsWord word → text ≠ "" →
      Written (.options text) [word, text]

inductive AllWritten : List Item → List String → Prop
  | nil : AllWritten [] []
  | cons {item items words rest} : Written item words → AllWritten items rest →
      AllWritten (item :: items) (words ++ rest)

def apply (arguments : Arguments) : Item → Arguments
  | .nothing => arguments
  | .verbosity level => { arguments with verbosity := level }
  | .localPort port => { arguments with localPort := some port }
  | .remotePort port => { arguments with remotePort := port }
  | .remoteHost host => { arguments with remoteHost := some host }
  | .options text => { arguments with options := text }

def Conflict (items : List Item) : Prop :=
  .verbosity .verbose ∈ items ∧ .verbosity .quiet ∈ items

def verbosity? : Item → Option Verbosity
  | .verbosity level => some level
  | _ => none

def localPort? : Item → Option UInt16
  | .localPort port => some port
  | _ => none

def remotePort? : Item → Option UInt16
  | .remotePort port => some port
  | _ => none

def remoteHost? : Item → Option String
  | .remoteHost host => some host
  | _ => none

def options? : Item → Option String
  | .options text => some text
  | _ => none

end Item

/-- What items ask for together: the last value of each kind, and the default for the kinds that are
not among them. -/
def ofItems (items : List Item) : Arguments where
  verbosity := (items.filterMap Item.verbosity?).getLastD .normal
  localPort := (items.filterMap Item.localPort?).getLast?
  remoteHost := (items.filterMap Item.remoteHost?).getLast?
  remotePort := (items.filterMap Item.remotePort?).getLastD defaultRemotePort
  options := (items.filterMap Item.options?).getLastD defaultOptions

end Arguments

end Camouflage

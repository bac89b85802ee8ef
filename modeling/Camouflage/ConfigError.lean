import Camouflage.IoError
import Camouflage.Options.Inline

namespace Camouflage

inductive ConfigError
  | missingLocalPort
  | missingRemoteHost
  | emptyKey
  | zeroTicketTimeHint
  | serverNameTooLong (length : Nat)
  | invalidPort (name value : String)
  | unreadable (path : String) (error : IoError)
  | malformedOptions (fault : Options.SplitFault)
  | invalidValue (key value : String)
  /-- The place is known only for options from JSON text. -/
  | json (fault : Json.Fault) (position : Option Json.Position)
  | noRandomness
  deriving DecidableEq, Repr

namespace ConfigError

def message : ConfigError → String
  | .missingLocalPort => "Local port must be specified"
  | .missingRemoteHost => "Remote host must be specified"
  | .emptyKey => "Key cannot be empty"
  | .zeroTicketTimeHint => "TicketTimeHint cannot be empty or 0"
  | .serverNameTooLong length =>
    "ServerName is " ++ toString length ++ " bytes long, at most 255 are allowed"
  | .invalidPort name value => "Invalid port in " ++ name ++ ": " ++ value
  | .unreadable path error => "Failed to read config file " ++ path ++ ": " ++ error.message
  | .malformedOptions fault => "Malformed plugin options: " ++ fault.message
  | .invalidValue key value => "Invalid value for " ++ key ++ ": " ++ value
  | .json fault position =>
    "Invalid configuration: " ++ fault.message ++ (position.map Json.Position.text).getD ""
  | .noRandomness => "Failed to generate the opaque value: " ++ IoError.noRandomness.message

end ConfigError

end Camouflage

import Camouflage.ConfigError
import Camouflage.Options.Json

namespace Camouflage.Options

def loadJson (text : String) : Except ConfigError Options :=
  match ofJson text.toList with
  | .ok options => .ok options
  | .error failure => .error (.json failure.fault (failure.position text.toList))

def loadInline (text : String) : Except ConfigError Options :=
  match ofInline text.toList with
  | .ok options => .ok options
  | .error (.malformed fault) => .error (.malformedOptions fault)
  | .error (.invalidValue pair) => .error (.invalidValue (.ofList pair.key) (.ofList pair.value))
  | .error (.unknown fault) => .error (.json fault none)

abbrev Files := String → Except IoError Bytes

def loadFile (files : Files) (path : String) : Except ConfigError Options :=
  match files path with
  | .error error => .error (.unreadable path error)
  | .ok content =>
    match String.fromUTF8? ⟨content.toArray⟩ with
    | none => .error (.unreadable path .notUtf8)
    | some text => loadJson text

def isInline (text : String) : Bool := text.toList.contains ';' && text.toList.contains '='

def load (files : Files) (text : String) : Except ConfigError Options :=
  if isInline text then loadInline text else loadFile files text

end Camouflage.Options

namespace Camouflage.Log

inductive Level
  | error
  | warn
  | info
  | debug
  | trace
  deriving DecidableEq, Repr

namespace Level

def name : Level → String
  | .error => "ERROR"
  | .warn => "WARN"
  | .info => "INFO"
  | .debug => "DEBUG"
  | .trace => "TRACE"

def rank : Level → Nat
  | .error => 1
  | .warn => 2
  | .info => 3
  | .debug => 4
  | .trace => 5

end Level

structure Entry where
  level : Level
  message : String
  fields : List (String × String) := []
  deriving DecidableEq, Repr

def Entry.line (target : String) (entry : Entry) : String :=
  let fields := entry.fields.map fun (name, value) => " " ++ name ++ "=" ++ value
  entry.level.name ++ " " ++ target ++ ": " ++ entry.message ++ String.join fields

end Camouflage.Log

import Camouflage.Text.Ascii

namespace Camouflage

inductive Browser
  | chrome
  | firefox
  deriving DecidableEq, Repr, Inhabited

namespace Browser

def name : Browser → String
  | .chrome => "chrome"
  | .firefox => "firefox"

def ofName? (text : String) : Option Browser :=
  [.chrome, .firefox].find? fun browser => Text.sameIgnoringCase text.toList browser.name.toList

def unknownText (text : String) : String :=
  "Unknown browser \"" ++ text ++ "\", expected chrome or firefox"

end Browser

end Camouflage

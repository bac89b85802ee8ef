import Camouflage.Json.Text
import Camouflage.Options.Inline

namespace Camouflage.Options

def escape (c : Char) : List Char := if c = '\\' ∨ c = ';' ∨ c = '=' then ['\\', c] else [c]

def Pair.write (pair : Pair) : List Char :=
  pair.key.flatMap escape ++ '=' :: pair.value.flatMap escape

def writePairs (pairs : List Pair) : List Char := [';'].intercalate (pairs.map Pair.write)

structure Spelling where
  name : Browser → String
  ofName?_name : ∀ browser, Browser.ofName? (name browser) = some browser

namespace Setting

variable (spelling : Spelling)

def valueText : Setting → List Char
  | .serverName text | .key text => text.toList
  | .ticketTimeHint seconds => Nat.toDigits 10 seconds.toNat
  | .browser choice => (spelling.name choice).toList
  | .fastOpen true => "true".toList
  | .fastOpen false => "false".toList

def pair (setting : Setting) : Pair := ⟨setting.field.name.toList, setting.valueText spelling⟩

def valueJson (setting : Setting) : List Char :=
  match setting with
  | .serverName _ | .key _ | .browser _ => Json.writeString (setting.valueText spelling)
  | .ticketTimeHint _ | .fastOpen _ => setting.valueText spelling

def member (setting : Setting) : List Char :=
  Json.writeString setting.field.name.toList ++ ':' :: setting.valueJson spelling

end Setting

def writeInline (spelling : Spelling) (settings : List Setting) : List Char :=
  writePairs (settings.map (Setting.pair spelling))

def writeJson (spelling : Spelling) (settings : List Setting) : List Char :=
  '{' :: [','].intercalate (settings.map (Setting.member spelling)) ++ ['}']

end Camouflage.Options

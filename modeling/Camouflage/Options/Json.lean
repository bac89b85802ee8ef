import Camouflage.Json.Reader
import Camouflage.Options

/-!
Options as JSON text: an object whose members are the fields, or a list of the fields' values in
their order. The text is read once, so its first fault is the one that is reported.
-/

namespace Camouflage.Options

open Json (Failure Result skipBlank)

def leaveObject (text : List Char) : List Char :=
  match skipBlank text with
  | '}' :: text => text
  | text => text

def leaveList (text : List Char) : List Char :=
  match skipBlank text with
  | ']' :: text => text
  | ',' :: text => skipBlank text
  | text => text

/-- The name of an unknown browser is noticed only behind the object or list that holds it. -/
def readSetting (leave : List Char → List Char) (text : List Char) : Field → Result Setting
  | .serverName => (Json.readText text).map fun (value, rest) => (.serverName (.ofList value), rest)
  | .key => (Json.readText text).map fun (value, rest) => (.key (.ofList value), rest)
  | .ticketTimeHint => (Json.readWhole text).map fun (value, rest) => (.ticketTimeHint value, rest)
  | .fastOpen => (Json.readBoolean text).map fun (value, rest) => (.fastOpen value, rest)
  | .browser =>
    match Json.readText text with
    | .error failure => .error failure
    | .ok (value, rest) =>
      match Browser.ofName? (.ofList value) with
      | some browser => .ok (.browser browser, rest)
      | none => Failure.before (leave rest) (.badValue (Browser.unknownText (.ofList value)))

def isSet (settings : List Setting) (field : Field) : Bool :=
  settings.any fun setting => setting.field == field

def readMember (settings : List Setting) (text : List Char) : Result Setting :=
  match Json.readString text with
  | .error failure => .error failure
  | .ok (name, text) =>
    match Field.ofName? name with
    | none => Failure.before (leaveObject text) (.unknownField name (Field.all.map Field.name))
    | some field =>
      if isSet settings field then Failure.before (leaveObject text) (.duplicateField field.name)
      else
        match skipBlank text with
        | ':' :: text => readSetting leaveObject text field
        | [] => Failure.before [] .endInObject
        | text => Failure.atFirst text .expectedColon

def nextMember (isFirst : Bool) (text : List Char) : Result Bool :=
  match isFirst, skipBlank text with
  | _, [] => Failure.before [] .endInObject
  | _, '}' :: text => .ok (false, text)
  | true, '"' :: text => .ok (true, text)
  | true, text => Failure.atFirst text .keyNotString
  | false, ',' :: text =>
    match skipBlank text with
    | '"' :: text => .ok (true, text)
    | [] => Failure.before [] .endInValue
    | '}' :: text => Failure.atFirst ('}' :: text) .trailingComma
    | text => Failure.atFirst text .keyNotString
  | false, text => Failure.atFirst text .expectedObjectEnd

def readMembers : (count : Nat) → (settings : List Setting) → List Char → Result (List Setting)
  | count, settings, text =>
    match nextMember settings.isEmpty text with
    | .error failure => .error failure
    | .ok (false, text) => .ok (settings, text)
    | .ok (true, text) =>
      match readMember settings text with
      | .error failure => .error failure
      | .ok (setting, text) =>
        match count with
        | 0 => .ok (settings, text)
        | count + 1 => readMembers count (settings ++ [setting]) text

def readListEnd (text : List Char) : Result Unit :=
  match skipBlank text with
  | ']' :: text => .ok ((), text)
  | ',' :: text =>
    match skipBlank text with
    | ']' :: text => Failure.atFirst (']' :: text) .trailingComma
    | text => Failure.atFirst text .trailingCharacters
  | [] => Failure.before [] .endInList
  | text => Failure.atFirst text .trailingCharacters

def nextElement (isFirst : Bool) (text : List Char) : Result Bool :=
  match isFirst, skipBlank text with
  | _, [] => Failure.before [] .endInList
  | _, ']' :: text => .ok (false, text)
  | false, ',' :: text =>
    match skipBlank text with
    | [] => Failure.before [] .endInValue
    | ']' :: text => Failure.atFirst (']' :: text) .trailingComma
    | text => .ok (true, text)
  | true, text => .ok (true, text)
  | false, text => Failure.atFirst text .expectedListEnd

def readElements : (fields : List Field) → (settings : List Setting) → List Char → Result (List Setting)
  | [], settings, text => (readListEnd text).map fun (_, rest) => (settings, rest)
  | field :: fields, settings, text =>
    match nextElement settings.isEmpty text with
    | .error failure => .error failure
    | .ok (false, text) => .ok (settings, text)
    | .ok (true, text) =>
      match readSetting leaveList text field with
      | .error failure => .error failure
      | .ok (setting, text) => readElements fields (settings ++ [setting]) text

def readSettings (text : List Char) : Result (List Setting) :=
  match skipBlank text with
  | '{' :: text => readMembers Field.all.length [] text
  | '[' :: text => readElements Field.all [] text
  | text => Json.unwanted "struct PluginConfig" text

def ofJson (text : List Char) : Except Failure Options :=
  match readSettings text with
  | .error failure => .error failure
  | .ok (settings, rest) =>
    match skipBlank rest with
    | [] => .ok (ofSettings settings)
    | rest => Failure.atFirst rest .trailingCharacters

end Camouflage.Options

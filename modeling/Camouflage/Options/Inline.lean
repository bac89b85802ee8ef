import Camouflage.Decimal.Whole
import Camouflage.Json.Fault
import Camouflage.Options
import Camouflage.Text.Blank

/-!
Options written in one line, as `Key=Value;Key=Value`. A backslash takes the next character
literally. The last of several values for one key counts, and keys are looked at in their order.
-/

namespace Camouflage.Options

inductive SplitFault
  | loneBackslash
  | missingEquals (text : List Char)
  | missingKey
  deriving DecidableEq, Repr

def SplitFault.message : SplitFault → String
  | .loneBackslash => "Options end with a lone backslash"
  | .missingEquals text => "Missing '=' after " ++ String.ofList text
  | .missingKey => "Found a value without a key"

structure Pair where
  key : List Char
  value : List Char
  deriving DecidableEq, Repr

/-- Key and value stand newest character first, and there is a value once an equals sign was met. -/
structure Entry where
  key : List Char := []
  value : Option (List Char) := none

namespace Entry

def push (c : Char) (entry : Entry) : Entry :=
  match entry.value with
  | none => { entry with key := c :: entry.key }
  | some value => { entry with value := some (c :: value) }

def finish (entry : Entry) : Except SplitFault (Option Pair) :=
  let key := entry.key.reverse
  let name := Text.trim key
  match entry.value with
  | none => if name = [] then .ok none else .error (.missingEquals key)
  | some value => if name = [] then .error .missingKey else .ok (some ⟨name, value.reverse⟩)

end Entry

def splitFrom (entry : Entry) : List Char → Except SplitFault (List Pair)
  | [] => entry.finish.map Option.toList
  | c :: rest =>
    if c = '\\' then
      match rest with
      | [] => .error .loneBackslash
      | d :: rest => splitFrom (entry.push d) rest
    else if c = '=' ∧ entry.value = none then splitFrom { entry with value := some [] } rest
    else if c = ';' then
      match entry.finish with
      | .error fault => .error fault
      | .ok pair => (splitFrom {} rest).map (pair.toList ++ ·)
    else splitFrom (entry.push c) rest

def split (text : List Char) : Except SplitFault (List Pair) := splitFrom {} text

inductive PairFault
  | invalid
  | unknown (fault : Json.Fault)
  deriving DecidableEq, Repr

def greatestHint : Nat := UInt64.size - 1

def boolean? (text : List Char) : Option Bool :=
  if Text.sameIgnoringCase text "true".toList then some true
  else if Text.sameIgnoringCase text "false".toList then some false
  else none

namespace Pair

def setting (pair : Pair) : Except PairFault Setting :=
  match Field.ofName? pair.key with
  | none => .error (.unknown (.unknownField pair.key (Field.all.map Field.name)))
  | some .serverName => .ok (.serverName (.ofList pair.value))
  | some .key => .ok (.key (.ofList pair.value))
  | some .ticketTimeHint =>
    match Decimal.read greatestHint (Text.trim pair.value) with
    | .ok seconds => .ok (.ticketTimeHint (UInt64.ofNat seconds))
    | .error _ => .error .invalid
  | some .fastOpen =>
    match boolean? (Text.trim pair.value) with
    | some fastOpen => .ok (.fastOpen fastOpen)
    | none => .error .invalid
  | some .browser =>
    match Browser.ofName? (.ofList pair.value) with
    | some browser => .ok (.browser browser)
    | none => .error (.unknown (.badValue (Browser.unknownText (.ofList pair.value))))

def isInvalid (pair : Pair) : Bool := pair.setting matches .error .invalid

/-- Puts a pair where its key belongs, in place of an earlier pair with this key. -/
def insert (pair : Pair) : List Pair → List Pair
  | [] => [pair]
  | first :: rest =>
    if pair.key = first.key then pair :: rest
    else if pair.key < first.key then pair :: first :: rest
    else first :: insert pair rest

end Pair

inductive InlineFault
  | malformed (fault : SplitFault)
  | invalidValue (pair : Pair)
  | unknown (fault : Json.Fault)
  deriving DecidableEq, Repr

def settingsOf : List Pair → Except InlineFault (List Setting)
  | [] => .ok []
  | pair :: rest =>
    match pair.setting with
    | .error .invalid => .error (.invalidValue pair)
    | .error (.unknown fault) => .error (.unknown fault)
    | .ok setting => (settingsOf rest).map (setting :: ·)

/-- Every value is checked on its own first, also one that does not count. -/
def ofInline (text : List Char) : Except InlineFault Options :=
  match split text with
  | .error fault => .error (.malformed fault)
  | .ok pairs =>
    match pairs.find? Pair.isInvalid with
    | some pair => .error (.invalidValue pair)
    | none => (settingsOf (pairs.foldl (fun sorted pair => pair.insert sorted) [])).map ofSettings

end Camouflage.Options

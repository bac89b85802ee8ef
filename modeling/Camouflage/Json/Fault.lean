import Camouflage.Bytes
import Camouflage.Json.Number
import Camouflage.Text.Quoted

namespace Camouflage.Json

inductive Found
  | null
  | boolean (value : Bool)
  | number (value : Number)
  | string (value : List Char)
  | sequence
  | map
  deriving DecidableEq, Repr

inductive Fault
  | endInList
  | endInObject
  | endInString
  | endInValue
  | expectedColon
  | expectedListEnd
  | expectedObjectEnd
  | expectedWord
  | expectedValue
  | keyNotString
  | trailingComma
  | trailingCharacters
  | controlCharacter
  | badEscape
  | loneSurrogate
  | unfinishedSurrogates
  | badNumber
  | numberTooLarge
  | unknownField (name : List Char) (known : List String)
  | duplicateField (name : String)
  | wrongType (found : Found) (wanted : String)
  | negative (value : Int) (wanted : String)
  | badValue (description : String)
  deriving DecidableEq, Repr

inductive Category
  | syntactic
  | ended
  | semantic
  deriving DecidableEq, Repr

def Found.text : Found → String
  | .null => "null"
  | .boolean value => "boolean `" ++ toString value ++ "`"
  | .number (.float isNegative x) =>
    "floating point `" ++ (Number.float isNegative x).text ++ "`"
  | .number value => "integer `" ++ value.text ++ "`"
  | .string value => "string " ++ String.ofList (Text.quote value)
  | .sequence => "sequence"
  | .map => "map"

namespace Fault

def category : Fault → Category
  | .endInList | .endInObject | .endInString | .endInValue => .ended
  | .unknownField _ _ | .duplicateField _ | .wrongType _ _ | .negative _ _ | .badValue _ => .semantic
  | _ => .syntactic

def message : Fault → String
  | .endInList => "EOF while parsing a list"
  | .endInObject => "EOF while parsing an object"
  | .endInString => "EOF while parsing a string"
  | .endInValue => "EOF while parsing a value"
  | .expectedColon => "expected `:`"
  | .expectedListEnd => "expected `,` or `]`"
  | .expectedObjectEnd => "expected `,` or `\x7d`"
  | .expectedWord => "expected ident"
  | .expectedValue => "expected value"
  | .keyNotString => "key must be a string"
  | .trailingComma => "trailing comma"
  | .trailingCharacters => "trailing characters"
  | .controlCharacter => "control character (\\u0000-\\u001F) found while parsing a string"
  | .badEscape => "invalid escape"
  | .loneSurrogate => "lone leading surrogate in hex escape"
  | .unfinishedSurrogates => "unexpected end of hex escape"
  | .badNumber => "invalid number"
  | .numberTooLarge => "number out of range"
  | .unknownField name known =>
    "unknown field `" ++ String.ofList name ++ "`, expected one of " ++
      String.intercalate ", " (known.map fun field => "`" ++ field ++ "`")
  | .duplicateField name => "duplicate field `" ++ name ++ "`"
  | .wrongType found wanted => "invalid type: " ++ found.text ++ ", expected " ++ wanted
  | .negative value wanted =>
    "invalid value: integer `" ++ toString value ++ "`, expected " ++ wanted
  | .badValue description => description

end Fault

structure Position where
  line : Nat
  column : Nat
  deriving DecidableEq, Repr

namespace Position

def lineBreak : UInt8 := 10

def after (bytes : Bytes) : Position where
  line := bytes.count lineBreak + 1
  column := (bytes.reverse.takeWhile (· != lineBreak)).length

def text (position : Position) : String :=
  " at line " ++ toString position.line ++ " column " ++ toString position.column

end Position

/-- A fault, and how many bytes of the text lie behind it. -/
structure Failure where
  fault : Fault
  left : Nat
  deriving DecidableEq, Repr

namespace Failure

variable {α : Type}

def size (text : List Char) : Nat := (Bytes.ofChars text).length

def before (rest : List Char) (fault : Fault) : Except Failure α := .error ⟨fault, size rest⟩

def atFirst (rest : List Char) (fault : Fault) : Except Failure α := .error ⟨fault, size rest - 1⟩

def position (text : List Char) (failure : Failure) : Position :=
  let bytes := Bytes.ofChars text
  .after (bytes.take (bytes.length - failure.left))

end Failure

end Camouflage.Json

import Camouflage.Record

namespace Camouflage

inductive ErrorKind
  | notFound
  | permissionDenied
  | connectionRefused
  | connectionReset
  | connectionAborted
  | networkUnreachable
  | notConnected
  | addressInUse
  | addressNotAvailable
  | brokenPipe
  | wouldBlock
  | notADirectory
  | isADirectory
  | invalidInput
  | invalidData
  | timedOut
  | writeZero
  | invalidFilename
  | unexpectedEof
  | other
  deriving DecidableEq, Repr

def ErrorKind.text : ErrorKind → String
  | .notFound => "entity not found"
  | .permissionDenied => "permission denied"
  | .connectionRefused => "connection refused"
  | .connectionReset => "connection reset"
  | .connectionAborted => "connection aborted"
  | .networkUnreachable => "network unreachable"
  | .notConnected => "not connected"
  | .addressInUse => "address in use"
  | .addressNotAvailable => "address not available"
  | .brokenPipe => "broken pipe"
  | .wouldBlock => "operation would block"
  | .notADirectory => "not a directory"
  | .isADirectory => "is a directory"
  | .invalidInput => "invalid input parameter"
  | .invalidData => "invalid data"
  | .timedOut => "timed out"
  | .writeZero => "write zero"
  | .invalidFilename => "invalid filename"
  | .unexpectedEof => "unexpected end of file"
  | .other => "other error"

abbrev ErrorNumber := Int

namespace ErrorNumber

def noEntry : ErrorNumber := 2
def badDescriptor : ErrorNumber := 9
def tryAgain : ErrorNumber := 11
def noMemory : ErrorNumber := 12
def accessDenied : ErrorNumber := 13
def notDirectory : ErrorNumber := 20
def isDirectory : ErrorNumber := 21
def invalidArgument : ErrorNumber := 22
def systemTableFull : ErrorNumber := 23
def tooManyFiles : ErrorNumber := 24
def brokenPipe : ErrorNumber := 32
def nameTooLong : ErrorNumber := 36
def notSocket : ErrorNumber := 88
def addressInUse : ErrorNumber := 98
def addressNotAvailable : ErrorNumber := 99
def networkUnreachable : ErrorNumber := 101
def connectionAborted : ErrorNumber := 103
def connectionReset : ErrorNumber := 104
def noBuffers : ErrorNumber := 105
def notConnected : ErrorNumber := 107
def timedOut : ErrorNumber := 110
def connectionRefused : ErrorNumber := 111
def inProgress : ErrorNumber := 115

def table : List (ErrorNumber × ErrorKind × String) := [
  (noEntry, .notFound, "No such file or directory"),
  (tryAgain, .wouldBlock, "Resource temporarily unavailable"),
  (accessDenied, .permissionDenied, "Permission denied"),
  (notDirectory, .notADirectory, "Not a directory"),
  (isDirectory, .isADirectory, "Is a directory"),
  (invalidArgument, .invalidInput, "Invalid argument"),
  (brokenPipe, .brokenPipe, "Broken pipe"),
  (nameTooLong, .invalidFilename, "File name too long"),
  (addressInUse, .addressInUse, "Address already in use"),
  (addressNotAvailable, .addressNotAvailable, "Cannot assign requested address"),
  (networkUnreachable, .networkUnreachable, "Network is unreachable"),
  (connectionAborted, .connectionAborted, "Software caused connection abort"),
  (connectionReset, .connectionReset, "Connection reset by peer"),
  (notConnected, .notConnected, "Transport endpoint is not connected"),
  (timedOut, .timedOut, "Connection timed out"),
  (connectionRefused, .connectionRefused, "Connection refused")]

def kind (number : ErrorNumber) : ErrorKind :=
  match table.lookup number with
  | some (kind, _) => kind
  | none => .other

def text (number : ErrorNumber) : String :=
  match table.lookup number with
  | some (_, text) => text
  | none => "Unknown error " ++ toString number

end ErrorNumber

inductive IoError
  | ofKind (kind : ErrorKind)
  | system (number : ErrorNumber)
  /-- The stream ended inside a record. -/
  | earlyEnd
  | tookNothing
  | recordTooLong (header : Record.Header) (room : Nat)
  | noRandomness
  | nulInName
  | notUtf8
  deriving DecidableEq, Repr

namespace IoError

def hexadecimal (width n : Nat) : String :=
  let digits := Nat.toDigits 16 n
  "0x" ++ String.ofList (List.replicate (width - digits.length) '0' ++ digits)

def kind : IoError → ErrorKind
  | .ofKind kind => kind
  | .system number => number.kind
  | .earlyEnd => .unexpectedEof
  | .tookNothing => .writeZero
  | .recordTooLong _ _ => .invalidData
  | .noRandomness => .other
  | .nulInName => .invalidInput
  | .notUtf8 => .invalidData

def message : IoError → String
  | .ofKind kind => kind.text
  | .system number => number.text ++ " (os error " ++ toString number ++ ")"
  | .earlyEnd => "early eof"
  | .tookNothing => "write zero"
  | .recordTooLong header room =>
    "Record of type " ++ hexadecimal 2 header.contentType.toNat ++
      ", version " ++ hexadecimal 4 header.version.toNat ++
      " and " ++ toString header.length ++ " bytes does not fit in a buffer of " ++
      toString room ++ " bytes"
  | .noRandomness => "The system random number generator failed"
  | .nulInName => "file name contained an unexpected NUL byte"
  | .notUtf8 => "stream did not contain valid UTF-8"

def number? : IoError → Option ErrorNumber
  | .system number => some number
  | _ => none

def isListenerBroken (error : IoError) : Bool :=
  match error.number? with
  | some number => [.badDescriptor, .invalidArgument, .notSocket].contains number
  | none => false

/-- How many milliseconds to wait after an error of accepting. Running out of descriptors or memory
leaves the pending connection queued, so accepting again at once would fail the same way. -/
def acceptBackoff (error : IoError) : Option Nat :=
  match error.number? with
  | some number =>
    if [.tooManyFiles, .systemTableFull, .noBuffers, .noMemory].contains number then some 100
    else none
  | none => none

def isConnectInProgress (error : IoError) : Bool :=
  error.number? == some .inProgress || error.kind == .wouldBlock

end IoError

end Camouflage

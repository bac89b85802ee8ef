import Camouflage.Record.Reader

namespace Camouflage

def Ending.error : Ending → IoError
  | .closed => .earlyEnd
  | .failed error => error

namespace Record

structure Whole where
  header : Header
  payload : Bytes
  deriving DecidableEq, Repr

def first? (bytes : Bytes) : Option (Whole × Bytes) :=
  let header := Header.ofBytes bytes
  let length := header.length.toNat
  let rest := bytes.drop headerLength
  if headerLength + length ≤ bytes.length then
    some (⟨header, rest.take length⟩, rest.drop length)
  else none

theorem length_lt_of_first? {bytes rest : Bytes} {record : Whole}
    (h : first? bytes = some (record, rest)) : rest.length < bytes.length := by
  simp only [first?] at h
  split at h
  · cases h
    simp only [headerLength] at *
    simp only [List.length_drop]
    omega
  · cases h

def split (bytes : Bytes) : List Whole × Bytes :=
  match _h : first? bytes with
  | none => ([], bytes)
  | some (record, rest) =>
    let (records, rest) := split rest
    (record :: records, rest)
termination_by bytes.length
decreasing_by exact length_lt_of_first? _h

def payloads (bytes : Bytes) : List Bytes := (split bytes).1.map Whole.payload

/-- The payloads of the records at the start that are complete and fit in `capacity` bytes, the error
that the next one leads to, and the bytes that are left then. -/
def parse (capacity : Nat) (ending : Ending) (bytes : Bytes) : List Bytes × IoError × Bytes :=
  if bytes.length < headerLength then ([], ending.error, [])
  else
    let header := Header.ofBytes bytes
    if capacity < header.length.toNat then
      ([], .recordTooLong header capacity, bytes.drop headerLength)
    else
      match _h : first? bytes with
      | none => ([], ending.error, [])
      | some (record, rest) =>
        let (payloads, error, rest) := parse capacity ending rest
        (record.payload :: payloads, error, rest)
termination_by bytes.length
decreasing_by exact length_lt_of_first? _h

end Record

end Camouflage

import Camouflage.Connection

/-!
Reading one record over as many reads as it takes. A `Record.Reader` holds the part of a record
that has arrived; it never asks for a byte that lies behind the record.
-/

namespace Camouflage.Record

/-- The part of a record that has been read: of its header, or of its payload, newest byte first,
with the number of bytes that are missing. -/
inductive Reader
  | header (got : Bytes) (short : got.length < headerLength)
  | payload (got : Bytes) (missing : Nat) (pos : 0 < missing)
  deriving Repr

inductive Arrival
  | incomplete (reader : Reader)
  | complete (payload : Bytes)
  | tooLong (header : Header)
  deriving Repr

namespace Reader

def start : Reader := .header [] (by decide)

def missing : Reader → Nat
  | .header got _ => headerLength - got.length
  | .payload _ missing _ => missing

theorem missing_pos (reader : Reader) : 0 < reader.missing := by
  cases reader with
  | header got short => simp only [missing]; omega
  | payload _ _ pos => exact pos

def begin (capacity : Nat) (header : Header) : Arrival :=
  if capacity < header.length.toNat then .tooLong header
  else if pos : 0 < header.length.toNat then .incomplete (.payload [] header.length.toNat pos)
  else .complete []

def feed (capacity : Nat) (piece : Bytes) : Reader → Arrival
  | .header got _ =>
    let got := got ++ piece
    if short : got.length < headerLength then .incomplete (.header got short)
    else begin capacity (.ofBytes got)
  | .payload got missing _ =>
    let got := piece.reverse ++ got
    if pos : 0 < missing - piece.length then .incomplete (.payload got (missing - piece.length) pos)
    else .complete got.reverse

end Reader

inductive Outcome
  | waits (reader : Reader)
  | record (payload : Bytes)
  | failed (error : IoError)
  deriving Repr

def resume (capacity : Nat) (reader : Reader) (source : Source) : Outcome × Source :=
  match _h : source.read reader.missing with
  | .waits => (.waits reader, source)
  | .ended => (.failed .earlyEnd, source)
  | .failed error => (.failed error, source)
  | .got piece rest =>
    match reader.feed capacity piece with
    | .incomplete reader => resume capacity reader rest
    | .complete payload => (.record payload, rest)
    | .tooLong header => (.failed (.recordTooLong header capacity), rest)
termination_by source.bytes.length
decreasing_by exact Source.length_lt_of_read _h

def read (capacity : Nat) (source : Source) : Outcome × Source := resume capacity .start source

theorem length_lt_of_record {capacity : Nat} {reader : Reader} {source : Source} {payload : Bytes}
    (h : (resume capacity reader source).1 = .record payload) :
    (resume capacity reader source).2.bytes.length < source.bytes.length := by
  fun_induction resume capacity reader source with
  | case1 | case2 | case3 => cases h
  | case4 _ _ _ _ hr _ _ ih => exact Nat.lt_trans (ih h) (Source.length_lt_of_read hr)
  | case5 _ _ _ _ hr => exact Source.length_lt_of_read hr
  | case6 => cases h

def readAll (capacity : Nat) (source : Source) : List Bytes × Outcome × Source :=
  match _h : read capacity source with
  | (.record payload, rest) =>
    let (payloads, last, rest) := readAll capacity rest
    (payload :: payloads, last, rest)
  | (last, rest) => ([], last, rest)
termination_by source.bytes.length
decreasing_by
  have h : resume capacity .start source = (.record payload, rest) := _h
  have := length_lt_of_record (congrArg Prod.fst h)
  rwa [h] at this

end Camouflage.Record

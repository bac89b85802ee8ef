import Camouflage.IoError

/-!
Sending early data on a connection that is set up by its first bytes. The first send causes the
connection; it may report that the connection is not there yet, and then the same bytes are sent
again.
-/

namespace Camouflage.EarlyData

inductive Answer
  | took (count : Nat)
  | failed (error : IoError)
  deriving DecidableEq, Repr

structure Attempt where
  offered : Bytes
  count : Nat
  deriving DecidableEq, Repr

inductive Result
  | sent
  | failed (error : IoError)
  | unfinished (left : Bytes)
  deriving DecidableEq, Repr

def send (data : Bytes) : List Answer → List Attempt × Result
  | [] => ([], if data = [] then .sent else .unfinished data)
  | answer :: answers =>
    if data = [] then ([], .sent)
    else
      match answer with
      | .took 0 => ([⟨data, 0⟩], .failed (.ofKind .writeZero))
      | .took count =>
        let (attempts, result) := send (data.drop count) answers
        (⟨data, count⟩ :: attempts, result)
      | .failed error =>
        if error.isConnectInProgress then
          let (attempts, result) := send data answers
          (⟨data, 0⟩ :: attempts, result)
        else ([⟨data, 0⟩], .failed error)

def accepted (attempts : List Attempt) : Bytes :=
  attempts.flatMap fun attempt => attempt.offered.take attempt.count

end Camouflage.EarlyData

import Camouflage.Decimal.Whole

namespace Camouflage

namespace Port

inductive Fault
  | zero
  | tooLarge
  | malformed
  deriving DecidableEq, Repr

def largest : Nat := 65535

def ofText (text : List Char) : Except Fault UInt16 :=
  match Decimal.read largest text with
  | .ok 0 => .error .zero
  | .ok port => .ok (UInt16.ofNat port)
  | .error .tooLarge => .error .tooLarge
  | .error .empty | .error .badDigit => .error .malformed

def Denotes (text : List Char) (port : UInt16) : Prop :=
  Decimal.IsNumeral (Decimal.unsigned text) ∧ Decimal.value (Decimal.unsigned text) = port.toNat ∧
    port ≠ 0

end Port

end Camouflage

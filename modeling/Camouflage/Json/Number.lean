import Camouflage.Decimal.Shortest

namespace Camouflage.Json

open Decimal

inductive Number
  | whole (n : Nat)
  | negative (n : Int)
  | float (isNegative : Bool) (x : Binary64)
  deriving DecidableEq, Repr

namespace Number

def wholeBound : Nat := UInt64.size

def negativeBound : Nat := wholeBound / 2

/-- The number that an integer's sign and digits make. Below zero there are fewer whole numbers, and
zero with a minus sign is none. -/
def ofInteger (isNegative : Bool) (significand : Nat) : Number :=
  if isNegative then
    if significand = 0 ∨ negativeBound < significand then
      .float true ((Binary64.nearest? significand 1).getD .zero)
    else .negative (-significand)
  else .whole significand

def maxPower : Nat := 308

def powerOfTen (n : Nat) : Binary64 := (Binary64.nearest? (Nat.pow 10 n) 1).getD .zero

def greatestPower : Binary64 := ⟨5010420900022432, 971⟩

theorem powerOfTen_maxPower : powerOfTen maxPower = greatestPower := by decide +kernel

/-- `x * 10 ^ exponent`, rounded at every step, unless it is too great. Far below zero the power is
taken in steps of `maxPower`. -/
def scale? (x : Binary64) (exponent : Int) : Option Binary64 :=
  if exponent.natAbs ≤ maxPower then
    if 0 ≤ exponent then x.mul? (powerOfTen exponent.natAbs) else x.div? (powerOfTen exponent.natAbs)
  else if x.significand = 0 then some x
  else if 0 ≤ exponent then none
  else
    match x.div? greatestPower with
    | some x => scale? x (exponent + maxPower)
    | none => none
termination_by exponent.natAbs
decreasing_by
  have : maxPower = 308 := rfl
  omega

def ofScientific? (isNegative : Bool) (significand : Nat) (exponent : Int) : Option Number :=
  match Binary64.nearest? significand 1 with
  | some x => (scale? x exponent).map (.float isNegative)
  | none => none

/-- A floating-point value in the fewest digits that read back, with a decimal point or an exponent.
It stands without exponent when its point lies from four places before its first digit to sixteen
behind it. An exponent has its sign and no zeros in front. -/
def floatText (x : Binary64) : String :=
  let s := x.shortest
  let digits := Nat.toDigits 10 s.digits
  let point : Int := digits.length + s.exponent
  let zeros (n : Int) := List.replicate n.toNat '0'
  String.ofList <|
    if s.digits = 0 then ['0', '.', '0']
    else if 0 ≤ s.exponent ∧ point ≤ 16 then digits ++ zeros s.exponent ++ ['.', '0']
    else if 0 < point ∧ point ≤ 16 then digits.take point.toNat ++ '.' :: digits.drop point.toNat
    else if -5 < point ∧ point ≤ 0 then ['0', '.'] ++ zeros (-point) ++ digits
    else
      let fraction := if digits.length = 1 then [] else '.' :: digits.drop 1
      let sign := if 0 < point then ['+'] else ['-']
      digits.take 1 ++ fraction ++ 'e' :: sign ++ Nat.toDigits 10 (point - 1).natAbs

def text : Number → String
  | .whole n => toString n
  | .negative n => toString n
  | .float isNegative x => (if isNegative then "-" else "") ++ floatText x

end Number

end Camouflage.Json

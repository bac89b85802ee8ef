import Camouflage.Decimal.Binary64

/-!
The fewest decimal digits that read back as a given floating-point value, and of these the ones
nearest to it.
-/

namespace Camouflage.Decimal

structure Scientific where
  digits : Nat
  exponent : Int
  deriving DecidableEq, Repr

namespace Scientific

def num (s : Scientific) : Nat := s.digits * Nat.pow 10 s.exponent.toNat

def den (s : Scientific) : Nat := Nat.pow 10 (-s.exponent).toNat

def strip : (fuel : Nat) → Scientific → Scientific
  | 0, s => s
  | fuel + 1, s =>
    if s.digits ≠ 0 ∧ s.digits % 10 = 0 then strip fuel ⟨s.digits / 10, s.exponent + 1⟩ else s

end Scientific

namespace Binary64

/-- Whether a fraction reads back as `x`: it lies between the middles of the gaps around `x`, or on
one of them if the significand is even. The gap below a power of two is half as wide. -/
def readsBack (x : Binary64) (num den : Nat) : Bool :=
  let below :=
    if x.significand = Nat.pow 2 (precision - 1) ∧ leastExponent < x.exponent then 1 else 2
  let value := num * Nat.pow 2 (2 - x.exponent).toNat
  let unit := den * Nat.pow 2 (x.exponent - 2).toNat
  let low := (4 * x.significand - below) * unit
  let high := (4 * x.significand + 2) * unit
  if x.significand % 2 = 0 then low ≤ value && value ≤ high else low < value && value < high

def pointPosition (x : Binary64) : Int :=
  let guess : Int := (magnitude x.num x.den) * 30103 / 100000
  if x.num * Nat.pow 10 (-(guess + 1)).toNat < x.den * Nat.pow 10 (guess + 1).toNat then
    if x.num * Nat.pow 10 (-guess).toNat < x.den * Nat.pow 10 guess.toNat then guess else guess + 1
  else guess + 2

def neighbours (x : Binary64) (exponent : Int) : List Scientific :=
  let num := x.num * Nat.pow 10 (-exponent).toNat
  let den := x.den * Nat.pow 10 exponent.toNat
  let lower := num / den
  let nearer := roundQuotient num den
  let farther := if nearer = lower then lower + 1 else lower
  [⟨nearer, exponent⟩, ⟨farther, exponent⟩].filter fun s => readsBack x s.num s.den

/-- Tries one digit, two digits, and so on; seventeen always suffice. -/
def shortestFrom (x : Binary64) (point : Int) : (left : Nat) → Scientific
  | 0 =>
    let num := x.num * Nat.pow 10 (17 - point).toNat
    let den := x.den * Nat.pow 10 (point - 17).toNat
    ⟨roundQuotient num den, point - 17⟩
  | left + 1 =>
    match neighbours x (point - (17 - left : Nat)) with
    | s :: _ => s
    | [] => shortestFrom x point left

def shortest (x : Binary64) : Scientific :=
  if x.significand = 0 then ⟨0, 0⟩ else (shortestFrom x (pointPosition x) 17).strip 17

end Binary64

end Camouflage.Decimal

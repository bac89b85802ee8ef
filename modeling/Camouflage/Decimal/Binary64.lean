namespace Camouflage.Decimal

structure Binary64 where
  significand : Nat
  exponent : Int
  deriving DecidableEq, Repr

/-- A half goes to the even neighbour. -/
def roundQuotient (num den : Nat) : Nat :=
  let quotient := num / den
  let remainder := num % den
  if 2 * remainder < den ∨ (2 * remainder = den ∧ quotient % 2 = 0) then quotient else quotient + 1

namespace Binary64

def precision : Nat := 53

def leastExponent : Int := -1074

def greatestExponent : Int := 971

def zero : Binary64 := ⟨0, leastExponent⟩

def num (x : Binary64) : Nat := x.significand * Nat.pow 2 x.exponent.toNat

def den (x : Binary64) : Nat := Nat.pow 2 (-x.exponent).toNat

def magnitude (num den : Nat) : Int :=
  let k : Int := num.log2 - den.log2
  if den * Nat.pow 2 k.toNat ≤ num * Nat.pow 2 (-k).toNat then k else k - 1

def nearest? (num den : Nat) : Option Binary64 :=
  if num = 0 then some zero
  else
    let exponent := max (magnitude num den - (precision - 1 : Nat)) leastExponent
    let significand :=
      roundQuotient (num * Nat.pow 2 (-exponent).toNat) (den * Nat.pow 2 exponent.toNat)
    let (significand, exponent) :=
      if significand = Nat.pow 2 precision then (Nat.pow 2 (precision - 1), exponent + 1)
      else (significand, exponent)
    if greatestExponent < exponent then none else some ⟨significand, exponent⟩

def mul? (x y : Binary64) : Option Binary64 := nearest? (x.num * y.num) (x.den * y.den)

def div? (x y : Binary64) : Option Binary64 := nearest? (x.num * y.den) (x.den * y.num)

end Binary64

end Camouflage.Decimal

namespace Camouflage.Decimal

inductive Fault
  | empty
  | badDigit
  | tooLarge
  deriving DecidableEq, Repr

def digit? (c : Char) : Option Nat :=
  if c.isDigit then some (c.toNat - '0'.toNat) else none

/-- Reads digits onto a number. The first digit that takes it above the bound ends the reading,
whatever follows. -/
def readDigits (bound : Nat) : (value : Nat) → List Char → Except Fault Nat
  | value, [] => .ok value
  | value, c :: rest =>
    match digit? c with
    | none => .error .badDigit
    | some digit =>
      let value := 10 * value + digit
      if bound < value then .error .tooLarge else readDigits bound value rest

def read (bound : Nat) : List Char → Except Fault Nat
  | [] => .error .empty
  | ['+'] => .error .badDigit
  | '+' :: digits => readDigits bound 0 digits
  | digits => readDigits bound 0 digits

def unsigned : List Char → List Char
  | '+' :: rest => rest
  | text => text

def IsNumeral (digits : List Char) : Prop := digits ≠ [] ∧ ∀ c ∈ digits, c.isDigit

def value (digits : List Char) : Nat :=
  digits.foldl (fun n c => 10 * n + (c.toNat - '0'.toNat)) 0

end Camouflage.Decimal

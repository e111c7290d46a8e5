set_option autoImplicit false

/- Binary floating point with 53 significant bits, in exact arithmetic. A finite number is its sign, a whole mantissa
   below 2^53 and the power of two that scales it. -/
namespace KanjiPuzzle.Number

inductive Binary64 where
  | finite (negative : Bool) (mantissa : Nat) (exponent : Int)
  | infinite (negative : Bool)
  | undefined
deriving DecidableEq, Repr

namespace Binary64

def leastExponent : Int := -1074
def greatestExponent : Int := 971

def mantissaBound : Nat := 9007199254740992

-- A quotient as a whole number: the nearest one, and of two equally near the even one.
def roundQuotient (num den : Nat) : Nat :=
  let whole := num / den
  let twice := 2 * (num % den)
  if twice < den then whole
  else if den < twice then whole + 1
  else whole + whole % 2

def scaled (num den : Nat) (exponent : Int) : Nat × Nat :=
  if exponent < 0 then (num * Nat.pow 2 (-exponent).toNat, den) else (num, den * Nat.pow 2 exponent.toNat)

def exponentOf (num den : Nat) : Int :=
  let low := max leastExponent ((num.log2 : Int) - (den.log2 : Int) - 53)
  let fraction := scaled num den low
  if fraction.1 / fraction.2 < mantissaBound then low else low + 1

def ofFraction (negative : Bool) (num den : Nat) : Binary64 :=
  let exponent := exponentOf num den
  let fraction := scaled num den exponent
  let mantissa := roundQuotient fraction.1 fraction.2
  let carried := if mantissa = mantissaBound then (mantissaBound / 2, exponent + 1) else (mantissa, exponent)
  if greatestExponent < carried.2 then .infinite negative else .finite negative carried.1 carried.2

-- The number nearest to `digits` times ten to the `exponent`. Decimals far beyond the range are settled by a bound on
-- their magnitude, so that no power of ten much larger than needed is ever formed: a number of `b + 1` bits is less
-- than ten to the `b / 3 + 1` and at least ten to the `b / 4`.
def ofDecimal (negative : Bool) (digits : Nat) (exponent : Int) : Binary64 :=
  if digits = 0 ∨ exponent + (digits.log2 / 3 + 1 : Nat) < -330 then .finite negative 0 leastExponent
  else if 310 < exponent + (digits.log2 / 4 : Nat) then .infinite negative
  else if exponent < 0 then ofFraction negative digits (Nat.pow 10 (-exponent).toNat)
  else ofFraction negative (digits * Nat.pow 10 exponent.toNat) 1

def whole? : Binary64 → Option Int
  | .finite negative mantissa exponent =>
      let size := if exponent < 0 then mantissa / Nat.pow 2 (-exponent).toNat else mantissa * Nat.pow 2 exponent.toNat
      some (if negative then -(size : Int) else size)
  | _ => none

def same : Binary64 → Binary64 → Bool
  | .finite n₁ m₁ e₁, .finite n₂ m₂ e₂ => (m₁ == 0 && m₂ == 0) || (n₁ == n₂ && m₁ == m₂ && e₁ == e₂)
  | .infinite n₁, .infinite n₂ => n₁ == n₂
  | .undefined, .undefined => true
  | _, _ => false

end Binary64

end KanjiPuzzle.Number

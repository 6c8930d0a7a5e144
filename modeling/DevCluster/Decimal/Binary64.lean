/-!
Binary numbers with 53 significant bits, held exactly, and the one nearest to a decimal number.
-/

namespace DevCluster

/-- A finite number is `mantissa * 2 ^ exponent` with its sign. -/
inductive Binary64
  | finite (negative : Bool) (mantissa : Nat) (exponent : Int)
  | infinite (negative : Bool)
  | nan
deriving DecidableEq, Repr

namespace Binary64

/-- The exponent of the finest numbers, and the largest exponent of all. -/
def leastExponent : Int := -1074

def greatestExponent : Int := 971

/-- The whole number nearest to a quotient; from halfway, the even one. -/
def roundDiv (numerator denominator : Nat) : Nat :=
  let quotient := numerator / denominator
  let twice := 2 * (numerator % denominator)
  if twice < denominator then quotient
  else if denominator < twice then quotient + 1
  else quotient + quotient % 2

def scaleDown (numerator denominator : Nat) (exponent : Int) : Nat × Nat :=
  (numerator * Nat.pow 2 (-exponent).toNat, denominator * Nat.pow 2 exponent.toNat)

/-- The number nearest to `numerator / denominator`, infinite from halfway beyond the greatest. -/
def nearest (negative : Bool) (numerator denominator : Nat) : Binary64 :=
  if numerator = 0 then .finite negative 0 leastExponent
  else
    let fine := max leastExponent ((numerator.log2 : Int) - denominator.log2 - 53)
    let (n, d) := scaleDown numerator denominator fine
    let exponent := if Nat.pow 2 53 ≤ n / d then fine + 1 else fine
    let (n, d) := scaleDown numerator denominator exponent
    let mantissa := roundDiv n d
    let (mantissa, exponent) :=
      if mantissa = Nat.pow 2 53 then (Nat.pow 2 52, exponent + 1) else (mantissa, exponent)
    if greatestExponent < exponent then .infinite negative
    else .finite negative mantissa exponent

/-- The number nearest to `digits * 10 ^ exponent`. A power of ten beyond the range of every number
is not computed. -/
def ofDecimal (negative : Bool) (digits : Nat) (exponent : Int) : Binary64 :=
  let size : Int := (Nat.toDigits 10 digits).length
  if digits = 0 ∨ exponent + size < -400 then .finite negative 0 leastExponent
  else if 400 < exponent + size then .infinite negative
  else nearest negative (digits * Nat.pow 10 exponent.toNat) (Nat.pow 10 (-exponent).toNat)

end Binary64

end DevCluster

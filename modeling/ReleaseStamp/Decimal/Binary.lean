/-!
# Binary numbers of double width

A finite number of double width is a sign, a significand of at most 53 bits and an exponent of two.
A decimal numeral stands for the nearest of them; of two equally near ones for the even one.
-/
namespace ReleaseStamp.Decimal

inductive Binary where
  | finite (negative : Bool) (significand : Nat) (exponent : Int)
  | infinite (negative : Bool)
  | notNumber
deriving DecidableEq, Repr, Inhabited

def leastExponent : Int := -1074

def greatestExponent : Int := 971

/-- The quotient rounded to the nearest integer, a half to the even one. -/
def roundDiv (numerator denominator : Nat) : Nat :=
  let quotient := numerator / denominator
  let rest := 2 * (numerator % denominator)
  if denominator < rest || (rest == denominator && quotient % 2 == 1) then quotient + 1
  else quotient

def floorLog (numerator denominator : Nat) : Int :=
  let guess : Int := (numerator.log2 : Int) - denominator.log2
  if numerator * Nat.pow 2 (-guess).toNat < denominator * Nat.pow 2 guess.toNat then guess - 1
  else guess

def Binary.ofQuotient (negative : Bool) (numerator denominator : Nat) : Binary :=
  if numerator = 0 then .finite negative 0 leastExponent
  else
    let exponent := max (floorLog numerator denominator - 52) leastExponent
    let significand :=
      roundDiv (numerator * Nat.pow 2 (-exponent).toNat) (denominator * Nat.pow 2 exponent.toNat)
    let (significand, exponent) :=
      if significand = Nat.pow 2 53 then (Nat.pow 2 52, exponent + 1) else (significand, exponent)
    if greatestExponent < exponent then .infinite negative
    else .finite negative significand exponent

/-- Numbers of more than so many decimal places, before or behind the point, are out of range. -/
def placeBound : Int := 400

/-- The number nearest to `digits * 10 ^ power`. A number that is far out of range is not computed:
`digits` has more than `log2 digits / 4` and less than `log2 digits / 3 + 3` decimal digits. -/
def Binary.ofDecimal (negative : Bool) (digits : Nat) (power : Int) : Binary :=
  if digits = 0 || power + (digits.log2 / 3 + 2 : Nat) < -placeBound then
    .finite negative 0 leastExponent
  else if placeBound < power + (digits.log2 / 4 : Nat) then .infinite negative
  else ofQuotient negative (digits * Nat.pow 10 power.toNat) (Nat.pow 10 (-power).toNat)

end ReleaseStamp.Decimal

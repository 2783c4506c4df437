/-!
# Whole numbers with a limited count of binary digits

A number that has more is replaced by the nearest one that has not; halfway between two, the one
whose last digit is even is taken.
-/

set_option autoImplicit false

namespace Injector.Scenario

/-- The whole number nearest to a quotient, the even one of two. -/
def nearestQuotient (num den : Nat) : Nat :=
  let quotient := num / den
  let twice := 2 * (num % den)
  if twice < den then quotient
  else if den < twice then quotient + 1
  else quotient + quotient % 2

def lastUnit (digits n : Nat) : Nat := 1 <<< (n.log2 + 1 - digits)

def roundNatTo (digits n : Nat) : Nat := nearestQuotient n (lastUnit digits n) * lastUnit digits n

/-- The nearest number of at most `digits` binary digits, not counting zeros at the end. -/
def roundTo (digits : Nat) (n : Int) : Int :=
  if n < 0 then -(roundNatTo digits n.natAbs : Int) else (roundNatTo digits n.natAbs : Int)

def clampSigned (n : Int) : Int :=
  max (-0x8000000000000000) (min 0x7fffffffffffffff n)

end Injector.Scenario

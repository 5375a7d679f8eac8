/-
# Binary floating point numbers

The finite numbers of the 64-bit binary format as pairs of a significand and an
exponent, and the rounding of a decimal to the nearest of them.  Everything is
exact arithmetic on natural numbers, so the rounding rule can be read off: the
nearer neighbour, and of two equally near ones the even significand.
-/

namespace CommandShell.Decimal

/-- A number of the 64-bit binary format.  A finite one is
`significand * 2 ^ exponent` with the sign in front; zero keeps its sign. -/
inductive Binary64
  | finite (negative : Bool) (significand : Nat) (exponent : Int)
  | infinite (negative : Bool)
  | nan
  deriving DecidableEq, Repr

namespace Binary64

/-- Significands have this many bits. -/
def precision : Nat := 53

/-- The exponent of the smallest positive number. -/
def leastExponent : Int := -1074

/-- The greatest exponent of a significand of full precision. -/
def greatestExponent : Int := 971

/-- The nearest whole number to a quotient; of two equally near ones, the even
one. -/
def roundQuotient (numerator denominator : Nat) : Nat :=
  let quotient := numerator / denominator
  let rest := numerator % denominator
  if 2 * rest < denominator then quotient
  else if denominator < 2 * rest then quotient + 1
  else if quotient % 2 = 0 then quotient else quotient + 1

/-- A quotient divided by a power of two, as numerator and denominator. -/
def scaleDown (numerator denominator : Nat) (exponent : Int) : Nat × Nat :=
  if exponent < 0 then (numerator * Nat.pow 2 exponent.natAbs, denominator)
  else (numerator, denominator * Nat.pow 2 exponent.natAbs)

/-- The exponent at which a positive quotient has a significand of full
precision, or the least exponent if that is greater. -/
def exponentFor (numerator denominator : Nat) : Int :=
  let estimate : Int := numerator.log2 - denominator.log2 - precision
  let fits (exponent : Int) : Bool :=
    let (n, d) := scaleDown numerator denominator exponent
    n < d * Nat.pow 2 precision
  max leastExponent (if fits estimate then estimate else estimate + 1)

/-- The nearest number to a quotient. -/
def ofQuotient (negative : Bool) (numerator denominator : Nat) : Binary64 :=
  if numerator = 0 then .finite negative 0 0
  else
    let exponent := exponentFor numerator denominator
    let (n, d) := scaleDown numerator denominator exponent
    let significand := roundQuotient n d
    if significand = Nat.pow 2 precision then
      if greatestExponent ≤ exponent then .infinite negative
      else .finite negative (Nat.pow 2 (precision - 1)) (exponent + 1)
    else if greatestExponent < exponent then .infinite negative
    else .finite negative significand exponent

/-- A power of ten beyond every number, whose reciprocal is closer to zero than
to any other number. -/
def decimalReach : Int := 400

/-- The nearest number to a decimal significand times a power of ten.  Powers out
of reach are not worked out. -/
def ofDecimal (negative : Bool) (significand : Nat) (exponent : Int) : Binary64 :=
  if significand = 0 ∨ exponent < -(decimalReach + significand.log2) then .finite negative 0 0
  else if decimalReach < exponent then .infinite negative
  else if exponent < 0 then ofQuotient negative significand (Nat.pow 10 exponent.natAbs)
  else ofQuotient negative (significand * Nat.pow 10 exponent.natAbs) 1

/-- Zero, of either sign. -/
def isZero : Binary64 → Bool
  | .finite _ significand _ => significand == 0
  | _ => false

end Binary64

end CommandShell.Decimal

import SearchRequest.Binary64.Basic

/-!
# The binary64 value nearest to a decimal

A decimal `significand * 10 ^ exponent` is a quotient of two naturals.  The quotient
fixes the quantum, the power of two that the last bit of the result counts; one
division by the quantum, rounded half to even, gives the significand.  Decimals too
large for a finite value have no nearest one.

JSON readers that take the digits for a binary64 value first and scale that value
afterwards round twice, and what they read can be one unit away from the nearest value.
The numeral 9007199254740993.0, which lies halfway between two values, is read here as
9007199254740992.0 and by such a reader as 9007199254740994.0.
-/

namespace SearchRequest.Binary64

def roundHalfEven (numerator denominator : Nat) : Nat :=
  let quotient := numerator / denominator
  let rest := numerator % denominator
  if 2 * rest < denominator then quotient
  else if denominator < 2 * rest then quotient + 1
  else if quotient % 2 = 0 then quotient
  else quotient + 1

/-- The greatest `bit` with `2 ^ bit` at most the quotient of two positive naturals. -/
def leadingBit (numerator denominator : Nat) : Int :=
  let estimate : Int := (numerator.log2 : Int) - (denominator.log2 : Int)
  if numerator * Nat.pow 2 (-estimate).toNat < denominator * Nat.pow 2 estimate.toNat then
    estimate - 1
  else estimate

/-- The exponent of the last bit for a quotient: 53 bits, but never below the least one. -/
def quantum (numerator denominator : Nat) : Int :=
  max (leadingBit numerator denominator - 52) (-1074)

def nearestQuotient? (negative : Bool) (numerator denominator : Nat) : Option Binary64 :=
  let quantum := quantum numerator denominator
  let significand :=
    roundHalfEven (numerator * Nat.pow 2 (-quantum).toNat) (denominator * Nat.pow 2 quantum.toNat)
  if significand = Nat.pow 2 53 then ofParts? negative (Nat.pow 2 52) (quantum + 1)
  else ofParts? negative significand quantum

/--
The value nearest to `significand * 10 ^ exponent`, or `none` beyond the finite values.
Exponents far outside the range are decided without computing the power: `10 ^ 311` is
too large, and a decimal below `10 ^ (-330)` rounds to zero.
-/
def nearest? (negative : Bool) (significand : Nat) (exponent : Int) : Option Binary64 :=
  if significand = 0 then some (zero negative)
  else if 310 < exponent then none
  else if exponent + ((significand.log2 : Int) + 1) < -330 then some (zero negative)
  else
    nearestQuotient? negative (significand * Nat.pow 10 exponent.toNat)
      (Nat.pow 10 (-exponent).toNat)

end SearchRequest.Binary64

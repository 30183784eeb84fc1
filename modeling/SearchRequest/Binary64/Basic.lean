/-!
# Finite binary64 values

A finite binary64 value is a sign with an exact product `significand * 2 ^ exponent`.
The significand has at most 53 bits, and all 53 of them unless the exponent is the
least one, so every value has one representation.  Both zeros are values.
-/

namespace SearchRequest

/-- The pairs that stand for a finite binary64 magnitude. -/
def IsBinary64 (significand : Nat) (exponent : Int) : Prop :=
  significand < Nat.pow 2 53 ∧ -1074 ≤ exponent ∧ exponent ≤ 971 ∧
    (Nat.pow 2 52 ≤ significand ∨ exponent = -1074)

instance (significand : Nat) (exponent : Int) : Decidable (IsBinary64 significand exponent) :=
  inferInstanceAs (Decidable (_ ∧ _))

/-- A finite binary64 value: `significand * 2 ^ exponent` with a sign. -/
structure Binary64 where
  negative : Bool
  significand : Nat
  exponent : Int
  canonical : IsBinary64 significand exponent
  deriving DecidableEq

namespace Binary64

def zero (negative : Bool) : Binary64 :=
  ⟨negative, 0, -1074, by decide⟩

instance : Inhabited Binary64 := ⟨zero false⟩

/-- The value with these parts, unless it lies beyond the greatest finite one. -/
def ofParts? (negative : Bool) (significand : Nat) (exponent : Int) : Option Binary64 :=
  if canonical : IsBinary64 significand exponent then
    some ⟨negative, significand, exponent, canonical⟩
  else none

end Binary64

end SearchRequest

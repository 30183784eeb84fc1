import SearchRequest.Json.Number

/-!
# Reading a numeral

A numeral is read one character at a time: an optional minus sign, a whole part without
a superfluous zero, an optional fraction and an optional exponent.  Nothing marks its
end, so the reader asks after each character whether the numeral goes on.
-/

namespace SearchRequest.Json

inductive NumeralPart where
  | minus
  /-- The whole part zero, after which no further digit may come. -/
  | zero
  | whole
  | point
  | fraction
  | mark
  | exponentSign
  | exponent
  deriving DecidableEq, Repr

structure Numeral where
  part : NumeralPart
  negative : Bool
  /-- The digits before and after the point, as one natural. -/
  significand : Nat
  /-- The number of digits after the point. -/
  places : Nat
  exponentNegative : Bool
  exponent : Nat
  deriving DecidableEq, Repr

namespace Numeral

def digit? (c : Char) : Option Nat :=
  if 48 ≤ c.toNat ∧ c.toNat ≤ 57 then some (c.toNat - 48) else none

def begin? (c : Char) : Option Numeral :=
  if c = '-' then some ⟨.minus, true, 0, 0, false, 0⟩
  else
    (digit? c).map fun digit =>
      ⟨if digit = 0 then .zero else .whole, false, digit, 0, false, 0⟩

def addWhole (numeral : Numeral) (digit : Nat) : Numeral :=
  { numeral with part := .whole, significand := 10 * numeral.significand + digit }

def addFraction (numeral : Numeral) (digit : Nat) : Numeral :=
  { numeral with
    part := .fraction
    significand := 10 * numeral.significand + digit
    places := numeral.places + 1 }

def addExponent (numeral : Numeral) (digit : Nat) : Numeral :=
  { numeral with part := .exponent, exponent := 10 * numeral.exponent + digit }

/-- What a point, an exponent mark or anything else does after a complete part. -/
def afterPart? (numeral : Numeral) (pointAllowed : Bool) (c : Char) : Option Numeral :=
  if c = '.' ∧ pointAllowed = true then some { numeral with part := .point }
  else if c = 'e' ∨ c = 'E' then some { numeral with part := .mark }
  else none

/-- The numeral with one more character, if it goes on with that character. -/
def step? (numeral : Numeral) (c : Char) : Option Numeral :=
  match numeral.part, digit? c with
  | .minus, some digit =>
      some { numeral with part := if digit = 0 then .zero else .whole, significand := digit }
  | .minus, none => none
  | .zero, _ => numeral.afterPart? true c
  | .whole, some digit => some (numeral.addWhole digit)
  | .whole, none => numeral.afterPart? true c
  | .point, some digit => some (numeral.addFraction digit)
  | .point, none => none
  | .fraction, some digit => some (numeral.addFraction digit)
  | .fraction, none => numeral.afterPart? false c
  | .mark, some digit => some (numeral.addExponent digit)
  | .mark, none =>
      if c = '+' then some { numeral with part := .exponentSign }
      else if c = '-' then
        some { numeral with part := .exponentSign, exponentNegative := true }
      else none
  | .exponentSign, some digit => some (numeral.addExponent digit)
  | .exponentSign, none => none
  | .exponent, some digit => some (numeral.addExponent digit)
  | .exponent, none => none

/-- The power of ten that the last digit of the significand counts. -/
def scale (numeral : Numeral) : Int :=
  (if numeral.exponentNegative then -(numeral.exponent : Int) else numeral.exponent) -
    numeral.places

/--
The meaning of a numeral that ends here.  The outer `none` is a numeral that is not
complete; the inner one is a numeral for no finite value.
-/
def finish? (numeral : Numeral) : Option (Option Number) :=
  match numeral.part with
  | .zero | .whole => some (Number.ofWhole? numeral.negative numeral.significand)
  | .fraction | .exponent =>
      some (Number.ofDecimal? numeral.negative numeral.significand numeral.scale)
  | .minus | .point | .mark | .exponentSign => none

end Numeral

end SearchRequest.Json

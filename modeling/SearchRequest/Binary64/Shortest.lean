import SearchRequest.Binary64.Basic

/-!
# The shortest decimal of a binary64 value

Of the decimals that read back to a value, the one to write has the fewest digits, and
of those it is the nearest; a tie goes to the even last digit.  The decimals that read
back form an interval around the value, from halfway to the value below to halfway to
the value above, ends included when the significand is even.
-/

namespace SearchRequest.Binary64

/-- The decimal `digits * 10 ^ exponent`. -/
structure Decimal where
  digits : Nat
  exponent : Int
  deriving DecidableEq, Repr, Inhabited

/-- Compare `digits * 10 ^ exponent` with `count * 2 ^ power`, exactly. -/
def compareScaled (digits : Nat) (exponent : Int) (count : Nat) (power : Int) : Ordering :=
  compare (digits * Nat.pow 10 exponent.toNat * Nat.pow 2 (-power).toNat)
    (count * Nat.pow 2 power.toNat * Nat.pow 10 (-exponent).toNat)

/-- Whether the value below is only half as far away as the value above. -/
def narrowBelow (value : Binary64) : Bool :=
  value.significand = Nat.pow 2 52 && -1074 < value.exponent

/-- Whether a decimal lies among those that round to the value, a tie to the even one. -/
def readsBack (value : Binary64) (decimal : Decimal) : Bool :=
  let quarters := 4 * value.significand
  let low := if value.narrowBelow then quarters - 1 else quarters - 2
  let ends := value.significand % 2 = 0
  let fromLow := compareScaled decimal.digits decimal.exponent low (value.exponent - 2)
  let fromHigh :=
    compareScaled decimal.digits decimal.exponent (quarters + 2) (value.exponent - 2)
  (fromLow == .gt || (ends && fromLow == .eq)) &&
    (fromHigh == .lt || (ends && fromHigh == .eq))

/-- The least `scale` among a start and its three successors with the value below `10 ^ scale`. -/
def scaleFrom (value : Binary64) (start : Int) : Int :=
  let below (scale : Int) : Bool :=
    compareScaled 1 scale value.significand value.exponent == .gt
  if below start then start
  else if below (start + 1) then start + 1
  else if below (start + 2) then start + 2
  else start + 3

/-- The least `scale` with the value below `10 ^ scale`, for a value other than zero. -/
def decimalScale (value : Binary64) : Int :=
  scaleFrom value ((((value.significand.log2 : Int) + value.exponent) * 30103).fdiv 100000)

/-- The two decimals around the value on the grid of multiples of `10 ^ grid`. -/
def neighbours (value : Binary64) (grid : Int) : Decimal × Decimal :=
  let numerator :=
    value.significand * Nat.pow 2 value.exponent.toNat * Nat.pow 10 (-grid).toNat
  let denominator := Nat.pow 2 (-value.exponent).toNat * Nat.pow 10 grid.toNat
  let digits := numerator / denominator
  (⟨digits, grid⟩, ⟨digits + 1, grid⟩)

def nearerNeighbour (value : Binary64) (lower upper : Decimal) : Decimal :=
  match compareScaled (lower.digits + upper.digits) lower.exponent
      (2 * value.significand) value.exponent with
  | .gt => lower
  | .lt => upper
  | .eq => if lower.digits % 2 = 0 then lower else upper

/-- The decimal on one grid that reads back to the value, the nearer one of two. -/
def onGrid? (value : Binary64) (grid : Int) : Option Decimal :=
  let (lower, upper) := value.neighbours grid
  match value.readsBack lower, value.readsBack upper with
  | true, true => some (value.nearerNeighbour lower upper)
  | true, false => some lower
  | false, true => some upper
  | false, false => none

def exact (value : Binary64) : Decimal :=
  if 0 ≤ value.exponent then ⟨value.significand * Nat.pow 2 value.exponent.toNat, 0⟩
  else ⟨value.significand * Nat.pow 5 (-value.exponent).toNat, value.exponent⟩

/-- The decimal without the zeros at its end, for at most `steps` of them. -/
def Decimal.trim : Nat → Decimal → Decimal
  | 0, decimal => decimal
  | steps + 1, decimal =>
      if decimal.digits ≠ 0 ∧ decimal.digits % 10 = 0 then
        Decimal.trim steps ⟨decimal.digits / 10, decimal.exponent + 1⟩
      else decimal

/-- The shortest decimal that reads back to the value, the nearest of those. -/
def shortest (value : Binary64) : Decimal :=
  if value.significand = 0 then ⟨0, 0⟩
  else
    let scale := value.decimalScale
    let found := (List.range 17).findSome? fun (count : Nat) =>
      value.onGrid? (scale - ((count : Int) + 1))
    match found with
    | some decimal => decimal.trim 20
    | none => value.exact.trim 400

end SearchRequest.Binary64

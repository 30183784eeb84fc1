import SearchRequest.Binary64.Nearest
import SearchRequest.Binary64.Shortest

/-!
# JSON numbers

A number is an integer between `-2 ^ 63` and `2 ^ 64 - 1`, written in decimal, or a
finite binary64 value.  The two are told apart by their spelling: a numeral with a
point or an exponent is always a binary64 value, as are an integer numeral outside the
range and `-0`.
-/

namespace SearchRequest.Json

/-- The integers that are kept exactly. -/
def IsExactInteger (value : Int) : Prop :=
  -(Nat.pow 2 63 : Int) ≤ value ∧ value < (Nat.pow 2 64 : Int)

instance (value : Int) : Decidable (IsExactInteger value) :=
  inferInstanceAs (Decidable (_ ∧ _))

inductive Number where
  | integer (value : Int) (exact : IsExactInteger value)
  | real (value : Binary64)
  deriving DecidableEq

instance : Inhabited Number := ⟨.integer 0 (by decide)⟩

namespace Number

def digits (value : Nat) : String :=
  String.ofList (Nat.toDigits 10 value)

def integerText (value : Int) : String :=
  match value with
  | .ofNat magnitude => digits magnitude
  | .negSucc predecessor => "-" ++ digits (predecessor + 1)

/--
The positional text of the digits with the point after the digit for `10 ^ 0`; `leading` is
the power of ten of the first digit.  At least one digit stands on each side of the point.
-/
def positional (written : List Char) (leading : Int) : List Char :=
  if 0 ≤ leading then
    let size := leading.toNat + 1
    let whole := written.take size ++ List.replicate (size - written.length) '0'
    let fraction := written.drop size
    whole ++ '.' :: (if fraction = [] then ['0'] else fraction)
  else
    '0' :: '.' :: List.replicate ((-leading).toNat - 1) '0' ++ written

/-- The text with one digit before the point and a signed exponent. -/
def scientific (written : List Char) (leading : Int) : List Char :=
  let significand :=
    match written with
    | first :: second :: rest => first :: '.' :: second :: rest
    | short => short
  let sign := if 0 ≤ leading then '+' else '-'
  significand ++ 'e' :: sign :: Nat.toDigits 10 leading.natAbs

/--
A binary64 value with the fewest digits that read back: positionally when the power of ten
of its first digit lies between -5 and 15, and with an exponent otherwise.
-/
def realText (value : Binary64) : String :=
  let sign := if value.negative then ['-'] else []
  let body :=
    if value.significand = 0 then ['0', '.', '0']
    else
      let decimal := value.shortest
      let written := Nat.toDigits 10 decimal.digits
      let leading := decimal.exponent + (written.length : Int) - 1
      if -5 ≤ leading ∧ leading ≤ 15 then positional written leading
      else scientific written leading
  String.ofList (sign ++ body)

def written : Number → String
  | .integer value _ => integerText value
  | .real value => realText value

/-- The number of an integer numeral, from its sign and its digits. -/
def ofWhole? (negative : Bool) (magnitude : Nat) : Option Number :=
  let value : Int := if negative then -(magnitude : Int) else magnitude
  if exact : IsExactInteger value ∧ ¬(negative = true ∧ magnitude = 0) then
    some (.integer value exact.1)
  else (Binary64.nearest? negative magnitude 0).map .real

def ofDecimal? (negative : Bool) (significand : Nat) (exponent : Int) : Option Number :=
  (Binary64.nearest? negative significand exponent).map .real

end Number

end SearchRequest.Json

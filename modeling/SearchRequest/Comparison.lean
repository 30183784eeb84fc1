/-!
# Comparisons

A range query compares with one of six operators.  Each has a token; tokens are written
in upper case and read in either case of the ASCII letters.
-/

namespace SearchRequest

inductive Comparison where
  | ge
  | gt
  | lt
  | le
  | eq
  | ne
  deriving DecidableEq, Repr

namespace Comparison

def all : List Comparison := [ge, gt, lt, le, eq, ne]

def token : Comparison → String
  | .ge => "GE"
  | .gt => "GT"
  | .lt => "LT"
  | .le => "LE"
  | .eq => "EQ"
  | .ne => "NE"

/-- The number of a comparison; zero is kept for a comparison that is not set. -/
def number : Comparison → Nat
  | .ge => 1
  | .gt => 2
  | .lt => 3
  | .le => 4
  | .eq => 5
  | .ne => 6

def unsetToken : String := "UNKNOWN"

def tokenOrUnset : Option Comparison → String
  | some comparison => comparison.token
  | none => unsetToken

def lowerAscii (c : Char) : Char :=
  if 65 ≤ c.toNat ∧ c.toNat ≤ 90 then Char.ofNat (c.toNat + 32) else c

/-- Whether two texts agree up to the case of ASCII letters. -/
def sameToken (first second : String) : Bool :=
  first.toList.map lowerAscii = second.toList.map lowerAscii

def ofToken? (token : String) : Option Comparison :=
  all.find? fun comparison => sameToken comparison.token token

end Comparison

end SearchRequest

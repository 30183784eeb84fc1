import Mathlib.Tactic.IntervalCases
import SearchRequest.Json.Basic
import SearchRequest.Proofs.Json.Quotation

/-!
# Integers read back

An integer of the exact range is written digit by digit, the first one not zero unless it is
the only one.  The reader takes the digits in the same order, and so it reads that integer.
-/

namespace SearchRequest.Json

namespace Numeral

/-- The numeral of which the sign and the digits of a positive whole part have been read. -/
def ofWhole (negative : Bool) (magnitude : Nat) : Numeral :=
  ⟨.whole, negative, magnitude, 0, false, 0⟩

theorem digit?_digitChar {digit : Nat} (small : digit < 10) :
    digit? digit.digitChar = some digit := by
  rw [digit?, Nat.toNat_digitChar_of_lt_ten small, if_pos (by omega)]
  congr 1
  omega

theorem step?_ofWhole (negative : Bool) (magnitude : Nat) {digit : Nat} (small : digit < 10) :
    (ofWhole negative magnitude).step? digit.digitChar =
      some (ofWhole negative (10 * magnitude + digit)) := by
  rw [step?, digit?_digitChar small]
  rfl

end Numeral

namespace Reader

open Numeral (ofWhole)

/-- What a first digit other than zero begins, all digits continue. -/
theorem run?_toDigits {start : Reader} {negative : Bool} {outer : List Frame}
    (begins : ∀ digit, 0 < digit → digit < 10 →
      start.step? digit.digitChar = some (.numeral (ofWhole negative digit) outer))
    {magnitude : Nat} (positive : 0 < magnitude) :
    start.run? (Nat.toDigits 10 magnitude) =
      some (.numeral (ofWhole negative magnitude) outer) := by
  induction magnitude using Nat.strongRecOn with
  | ind magnitude ih =>
      by_cases single : magnitude < 10
      · rw [Nat.toDigits_of_lt_base single, run?_singleton, begins magnitude positive single]
      · have front := ih (magnitude / 10) (by omega) (by omega)
        have last := Numeral.step?_ofWhole negative (magnitude / 10)
          (Nat.mod_lt magnitude (by decide : 0 < 10))
        rw [Nat.toDigits_of_base_le (by decide) (by omega), run?_append, front, Option.bind_some,
          run?_singleton, step?, last, Nat.div_add_mod]

/-- A digit begins nothing but a numeral. -/
theorem step?_value_digitChar (outer : List Frame) {digit : Nat} (positive : 0 < digit)
    (small : digit < 10) :
    (Reader.value outer).step? digit.digitChar = some (.numeral (ofWhole false digit) outer) := by
  interval_cases digit <;> rfl

theorem step?_minus_digitChar (outer : List Frame) {digit : Nat} (positive : 0 < digit)
    (small : digit < 10) :
    (Reader.numeral ⟨.minus, true, 0, 0, false, 0⟩ outer).step? digit.digitChar =
      some (.numeral (ofWhole true digit) outer) := by
  rw [step?, Numeral.step?, Numeral.digit?_digitChar small]
  simp only [if_neg (Nat.ne_of_gt positive)]
  rfl

end Reader

/-- The digits of an integer of the exact range mean that integer. -/
theorem Number.ofWhole?_of_exact {negative : Bool} {magnitude : Nat} {value : Int}
    (signed : value = if negative then -(magnitude : Int) else magnitude)
    (notMinusZero : ¬(negative = true ∧ magnitude = 0)) (exact : IsExactInteger value) :
    ofWhole? negative magnitude = some (.integer value exact) := by
  subst signed
  exact dif_pos ⟨exact, notMinusZero⟩

/-- The text of an integer is read as that integer. -/
theorem ofText?_integerText {value : Int} (exact : IsExactInteger value) :
    Spelling.ofText? (Number.integerText value) = some (.number (some (.integer value exact))) := by
  cases value with
  | ofNat magnitude =>
      have means : Number.ofWhole? false magnitude = some (.integer (.ofNat magnitude) exact) :=
        @Number.ofWhole?_of_exact false magnitude _ rfl
          (fun minus => Bool.noConfusion minus.1) exact
      rw [← means]
      rcases Nat.eq_zero_or_pos magnitude with rfl | positive
      · rfl
      · have digits := Reader.run?_toDigits (fun _ => Reader.step?_value_digitChar []) positive
        rw [Spelling.ofText?, Number.integerText, Number.digits, String.toList_ofList, digits]
        rfl
  | negSucc predecessor =>
      have means : Number.ofWhole? true (predecessor + 1) =
          some (.integer (.negSucc predecessor) exact) :=
        @Number.ofWhole?_of_exact true (predecessor + 1) _ rfl
          (fun minus => Nat.succ_ne_zero predecessor minus.2) exact
      have minus : (Reader.value []).step? '-' =
          some (.numeral ⟨.minus, true, 0, 0, false, 0⟩ []) := rfl
      have digits := Reader.run?_toDigits (fun _ => Reader.step?_minus_digitChar [])
        (Nat.succ_pos predecessor)
      have characters : (Number.integerText (.negSucc predecessor)).toList =
          '-' :: Nat.toDigits 10 (predecessor + 1) := by
        simp [Number.integerText, Number.digits]
      rw [← means, Spelling.ofText?, characters, Reader.run?_cons, minus, Option.bind_some, digits]
      rfl

end SearchRequest.Json

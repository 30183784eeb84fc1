import Mathlib.Data.List.Basic
import SearchRequest.Comparison
import SearchRequest.Proofs.Traversal

/-!
# Tokens of comparisons

Two texts agree up to the case of ASCII letters if they are the same in upper case.  So a text is
read as a comparison exactly if its upper case is the token of that comparison.
-/

namespace SearchRequest.Comparison

theorem toNat_lowerAscii (c : Char) :
    (lowerAscii c).toNat = if 65 ≤ c.toNat ∧ c.toNat ≤ 90 then c.toNat + 32 else c.toNat := by
  rw [lowerAscii]
  split
  · have valid : (c.toNat + 32).isValidChar := .inl (by omega)
    rw [Char.ofNat, dif_pos valid]
    rfl
  · rfl

theorem toNat_toUpper (c : Char) :
    c.toUpper.toNat = if 97 ≤ c.toNat ∧ c.toNat ≤ 122 then c.toNat - 32 else c.toNat := by
  have small : ('a'.val ≤ c.val ∧ c.val ≤ 'z'.val) ↔ 97 ≤ c.toNat ∧ c.toNat ≤ 122 := by
    simp only [UInt32.le_iff_toNat_le]
    rfl
  delta Char.toUpper
  split
  · next letter =>
      obtain ⟨low, high⟩ := small.mp letter
      -- The distance to the capital letters is negative, so it is added modulo `2 ^ 32`.
      change (c.val + ('A'.val - 'a'.val)).toNat = _
      have shift : ('A'.val - 'a'.val).toNat = 2 ^ 32 - 32 := rfl
      have own : c.val.toNat = c.toNat := rfl
      rw [if_pos (small.mp letter), UInt32.toNat_add, shift, own]
      omega
  · next other => rw [if_neg (mt small.mpr other)]

/-- Characters that agree as small letters agree as capital letters. -/
theorem lowerAscii_eq_iff {c d : Char} :
    lowerAscii c = lowerAscii d ↔ c.toUpper = d.toUpper := by
  simp only [← Char.toNat_inj, toNat_lowerAscii, toNat_toUpper]
  split_ifs <;> omega

theorem sameToken_iff {first second : String} :
    sameToken first second = true ↔ first.toUpper = second.toUpper := by
  rw [sameToken, decide_eq_true_eq, ← String.toList_inj, String.toUpper, String.toUpper,
    String.toList_map, String.toList_map]
  constructor
  · exact Traversal.map_eq_map_of_imp Char.toUpper fun _ _ _ _ => lowerAscii_eq_iff.mp
  · exact Traversal.map_eq_map_of_imp lowerAscii fun _ _ _ _ => lowerAscii_eq_iff.mpr

theorem toUpper_token (comparison : Comparison) : comparison.token.toUpper = comparison.token := by
  rw [← String.toList_inj, String.toUpper, String.toList_map]
  cases comparison <;> decide

theorem ofToken?_token (comparison : Comparison) : ofToken? comparison.token = some comparison := by
  cases comparison <;> decide

/-- A text names a comparison if it is the token in any case of its letters. -/
theorem ofToken?_eq_some_iff {token : String} {comparison : Comparison} :
    ofToken? token = some comparison ↔ token.toUpper = comparison.token := by
  constructor
  · intro found
    have same : sameToken comparison.token token = true := by
      simpa using List.find?_some found
    rw [← sameToken_iff.mp same, toUpper_token]
  · intro upper
    have sameTests : (fun other : Comparison => sameToken other.token token) =
        fun other => sameToken other.token comparison.token := by
      funext other
      rw [Bool.eq_iff_iff, sameToken_iff, sameToken_iff, upper, toUpper_token comparison]
    rw [ofToken?, sameTests]
    exact ofToken?_token comparison

end SearchRequest.Comparison

import SearchRequest.Proofs.Query.Depth
import SearchRequest.Proofs.Query.Reading

/-!
# Queries read back from their text
-/

namespace SearchRequest.Query

/-- The text of a query without faults and verbatim texts is read back, if it is not too deep. -/
theorem ofText_render {query : Query} {encoding : Encoding} (free : query.VerbatimFree)
    (faultless : query.fault? encoding = none) :
    ofText (query.render .json) =
      if query.depth ≤ 127 then .ok query.normal else .error (.clause .notJson) := by
  rw [ofText, ofText?_render free.legible, bracketDepth_render free.legible]
  by_cases shallow : query.depth ≤ 127
  · rw [if_pos shallow, if_pos shallow]
    exact ofJson_meaning free faultless
  · rw [if_neg shallow, if_neg shallow]

/--
A query without verbatim texts that can be written as JSON is read back from its text, up to
the empty namespace.  The only text that cannot be read is one with more than 127 brackets
open somewhere, and the tree tells which one that is.
-/
theorem ofText_encode {query : Query} {text : String} (free : query.VerbatimFree)
    (written : query.encode .json = .ok text) :
    (query.depth ≤ 127 → ofText text = .ok query.normal) ∧
      (127 < query.depth → ofText text = .error (.clause .notJson)) := by
  obtain ⟨faultless, rfl⟩ := encode_eq_ok_iff.mp written
  rw [ofText_render free faultless]
  constructor
  · intro shallow
    rw [if_pos shallow]
  · intro deep
    rw [if_neg (Nat.not_le.mpr deep)]

def catalogueQuery : Query :=
  .anyOf [.allOf [.propertyEquals "tïtle\\" "say \"hi\"\n\t", .inCollections []],
    .elementEquals ⟨"sku", some ""⟩ "\u0001",
    .negate (.range (.element ⟨"price", none⟩) (some .ge) "10" "xs:int"),
    .atUris ["/a.json", ""]]

def deepQuery : Query :=
  (List.replicate 125 ()).foldr (fun _ query => .negate query) (.atUris [])

/-- A query is read back with the empty namespace gone; one bracket too many and it is not. -/
theorem ofText_encode_catalogueQuery :
    (catalogueQuery.VerbatimFree ∧
      catalogueQuery.encode .json = .ok (catalogueQuery.render .json) ∧
      catalogueQuery.depth = 9 ∧
      ofText (catalogueQuery.render .json) = .ok catalogueQuery.normal) ∧
    deepQuery.VerbatimFree ∧ deepQuery.encode .json = .ok (deepQuery.render .json) ∧
      deepQuery.depth = 128 ∧
      ofText (deepQuery.render .json) = .error (.clause .notJson) := by
  have free : catalogueQuery.VerbatimFree := by decide
  have written : catalogueQuery.encode .json = .ok (catalogueQuery.render .json) := rfl
  have deepFree : deepQuery.VerbatimFree := by decide
  have deepWritten : deepQuery.encode .json = .ok (deepQuery.render .json) := rfl
  exact ⟨⟨free, written, by decide, (ofText_encode free written).1 (by decide)⟩,
    deepFree, deepWritten, by decide +kernel,
    (ofText_encode deepFree deepWritten).2 (by decide +kernel)⟩

end SearchRequest.Query

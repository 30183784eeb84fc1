import SearchRequest.Proofs.Query.Tree
import SearchRequest.Query.Encode

/-!
# Faults of queries

A combination is without faults when it combines something and everything that it
combines is without faults.  Every fault belongs to one node, and the fault of a query is the
first one on the walk over its nodes.
-/

namespace SearchRequest.Query

variable {encoding : Encoding}

theorem firstFault?_eq_none_iff {queries : List Query} :
    firstFault? encoding queries = none ↔ ∀ query ∈ queries, query.fault? encoding = none := by
  rw [firstFault?_eq_findSome?, List.findSome?_eq_none_iff]

theorem fault?_allOf_eq_none_iff {queries : List Query} :
    (Query.allOf queries).fault? encoding = none ↔
      queries ≠ [] ∧ ∀ query ∈ queries, query.fault? encoding = none := by
  rw [← firstFault?_eq_none_iff, fault?]
  cases queries <;> simp

theorem fault?_anyOf_eq_none_iff {queries : List Query} :
    (Query.anyOf queries).fault? encoding = none ↔
      queries ≠ [] ∧ ∀ query ∈ queries, query.fault? encoding = none := by
  rw [← firstFault?_eq_none_iff, fault?]
  cases queries <;> simp

/-- A query is encoded exactly when it has no fault, and then as its text. -/
theorem encode_eq_ok_iff {query : Query} {text : String} :
    query.encode encoding = .ok text ↔
      query.fault? encoding = none ∧ text = query.render encoding := by
  rw [encode]
  cases query.fault? encoding with
  | some fault => simp
  | none => simp [eq_comm]

theorem exists_encode_iff {query : Query} :
    (∃ text, query.encode encoding = .ok text) ↔ query.fault? encoding = none := by
  simp only [encode_eq_ok_iff, exists_and_left, exists_eq, and_true]

/-- A query with a fault is not encoded. -/
theorem encode_eq_error_iff {query : Query} {fault : Error} :
    query.encode encoding = .error fault ↔ query.fault? encoding = some fault := by
  rw [encode]
  cases query.fault? encoding <;> simp

/-- The fault that a query has by itself, whatever stands below it. -/
def ownFault? (encoding : Encoding) : Query → Option Error
  | .verbatim text authored =>
      if Text.isBlank text then some .blankQuery
      else if authored = encoding then none
      else some (.wrongEncoding authored encoding)
  | .range container none _ _ => some (.comparisonUnset container)
  | .allOf [] => some (.emptyComposite .allOf)
  | .anyOf [] => some (.emptyComposite .anyOf)
  | _ => none

/-- The fault of a query is the first one from the top down and from left to right. -/
theorem fault?_eq_findSome? (query : Query) :
    query.fault? encoding = query.nodes.findSome? (ownFault? encoding) := by
  have ofAll {queries : List Query} (ofEach : ∀ query ∈ queries,
      query.fault? encoding = query.nodes.findSome? (ownFault? encoding)) :
      firstFault? encoding queries = (nodesAll queries).findSome? (ownFault? encoding) := by
    induction queries with
    | nil => rfl
    | cons query rest ih =>
        rw [List.forall_mem_cons] at ofEach
        rw [firstFault?, nodesAll, List.findSome?_append, ofEach.1, ih ofEach.2]
  induction query using Query.induction with
  | verbatim text authored =>
      rw [nodes, List.findSome?_singleton]
      rfl
  | range container comparison bound rangeType => cases comparison <;> rfl
  | allOf queries ih =>
      rw [fault?, ofAll ih, nodes]
      cases queries <;> rfl
  | anyOf queries ih =>
      rw [fault?, ofAll ih, nodes]
      cases queries <;> rfl
  | negate query ih =>
      rw [fault?, ih, nodes]
      rfl
  | _ => rfl

theorem fault?_eq_none_iff {query : Query} :
    query.fault? encoding = none ↔ ∀ node ∈ query.nodes, node.ownFault? encoding = none := by
  rw [fault?_eq_findSome?, List.findSome?_eq_none_iff]

/-- Where only one fault can occur, a query has it as soon as one of its nodes has. -/
theorem fault?_eq_some_of_only {query node : Query} {fault : Error} (inside : node ∈ query.nodes)
    (own : node.ownFault? encoding = some fault)
    (only : ∀ node ∈ query.nodes, ∀ other, node.ownFault? encoding = some other → other = fault) :
    query.fault? encoding = some fault := by
  rw [fault?_eq_findSome?]
  have faulty := List.findSome?_isSome_iff.mpr ⟨node, inside, Option.isSome_of_eq_some own⟩
  obtain ⟨first, found⟩ := Option.isSome_iff_exists.mp faulty
  obtain ⟨culprit, inside, own⟩ := List.exists_of_findSome?_eq_some found
  rw [found, only culprit inside first own]

end SearchRequest.Query

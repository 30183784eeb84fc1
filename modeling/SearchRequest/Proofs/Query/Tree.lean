import SearchRequest.Query.Basic

/-!
# The parts of a query

A query is walked over from the top down and from left to right.  What a query holds
anywhere, such as its elements or its verbatim texts, is a property of that walk.
-/

namespace SearchRequest.Query

theorem induction {motive : Query → Prop}
    (verbatim : ∀ text encoding, motive (.verbatim text encoding))
    (propertyEquals : ∀ property value, motive (.propertyEquals property value))
    (elementEquals : ∀ element value, motive (.elementEquals element value))
    (range : ∀ container comparison bound rangeType,
      motive (.range container comparison bound rangeType))
    (allOf : ∀ queries, (∀ query ∈ queries, motive query) → motive (.allOf queries))
    (anyOf : ∀ queries, (∀ query ∈ queries, motive query) → motive (.anyOf queries))
    (negate : ∀ query, motive query → motive (.negate query))
    (inCollections : ∀ names, motive (.inCollections names))
    (atUris : ∀ uris, motive (.atUris uris)) (query : Query) : motive query := by
  refine @Query.rec motive (fun queries => ∀ query ∈ queries, motive query)
    verbatim propertyEquals elementEquals range allOf anyOf negate inCollections atUris
    ?_ ?_ query
  · intro query mem
    cases mem
  · intro query rest ofQuery ofRest
    exact List.forall_mem_cons.mpr ⟨ofQuery, ofRest⟩

mutual

/-- A query and everything below it, from the top down and from left to right. -/
def nodes : Query → List Query
  | .verbatim text encoding => [.verbatim text encoding]
  | .propertyEquals property value => [.propertyEquals property value]
  | .elementEquals element value => [.elementEquals element value]
  | .range container comparison bound rangeType => [.range container comparison bound rangeType]
  | .allOf queries => .allOf queries :: nodesAll queries
  | .anyOf queries => .anyOf queries :: nodesAll queries
  | .negate query => .negate query :: query.nodes
  | .inCollections names => [.inCollections names]
  | .atUris uris => [.atUris uris]

def nodesAll : List Query → List Query
  | [] => []
  | query :: rest => query.nodes ++ nodesAll rest

end

theorem nodesAll_eq_flatMap (queries : List Query) : nodesAll queries = queries.flatMap nodes := by
  induction queries with
  | nil => rfl
  | cons query rest ih => rw [nodesAll, List.flatMap_cons, ih]

theorem mem_nodes_self (query : Query) : query ∈ query.nodes := by
  cases query <;> exact List.mem_cons_self

section Nodes

variable {holds : Query → Prop}

theorem forall_nodes_allOf {queries : List Query} :
    (∀ node ∈ (Query.allOf queries).nodes, holds node) ↔
      holds (.allOf queries) ∧ ∀ query ∈ queries, ∀ node ∈ query.nodes, holds node := by
  rw [nodes, nodesAll_eq_flatMap, List.forall_mem_cons, List.forall_mem_flatMap]

theorem forall_nodes_anyOf {queries : List Query} :
    (∀ node ∈ (Query.anyOf queries).nodes, holds node) ↔
      holds (.anyOf queries) ∧ ∀ query ∈ queries, ∀ node ∈ query.nodes, holds node := by
  rw [nodes, nodesAll_eq_flatMap, List.forall_mem_cons, List.forall_mem_flatMap]

theorem forall_nodes_negate {query : Query} :
    (∀ node ∈ (Query.negate query).nodes, holds node) ↔
      holds (.negate query) ∧ ∀ node ∈ query.nodes, holds node := by
  rw [nodes, List.forall_mem_cons]

end Nodes

section Parts

variable {α : Type} (part? : Query → Option α)

theorem parts_allOf (queries : List Query) (skipped : part? (.allOf queries) = none) :
    (Query.allOf queries).nodes.filterMap part? =
      queries.flatMap fun query => query.nodes.filterMap part? := by
  rw [nodes, nodesAll_eq_flatMap, List.filterMap_cons_none skipped, List.filterMap_flatMap]

theorem parts_anyOf (queries : List Query) (skipped : part? (.anyOf queries) = none) :
    (Query.anyOf queries).nodes.filterMap part? =
      queries.flatMap fun query => query.nodes.filterMap part? := by
  rw [nodes, nodesAll_eq_flatMap, List.filterMap_cons_none skipped, List.filterMap_flatMap]

theorem parts_negate (query : Query) (skipped : part? (.negate query) = none) :
    (Query.negate query).nodes.filterMap part? = query.nodes.filterMap part? := by
  rw [nodes, List.filterMap_cons_none skipped]

end Parts

/-! ## Leaves -/

/-- The query itself, unless it combines others. -/
def leaf? : Query → Option Query
  | .allOf _ | .anyOf _ | .negate _ => none
  | query => some query

theorem eq_of_leaf? {node leaf : Query} (own : node.leaf? = some leaf) : node = leaf := by
  cases node <;> cases own <;> rfl

def leaves (query : Query) : List Query :=
  query.nodes.filterMap leaf?

@[simp]
theorem leaves_allOf (queries : List Query) :
    (Query.allOf queries).leaves = queries.flatMap leaves :=
  parts_allOf leaf? queries rfl

@[simp]
theorem leaves_anyOf (queries : List Query) :
    (Query.anyOf queries).leaves = queries.flatMap leaves :=
  parts_anyOf leaf? queries rfl

@[simp]
theorem leaves_negate (query : Query) : (Query.negate query).leaves = query.leaves :=
  parts_negate leaf? query rfl

/-! ## Elements -/

def element? : Query → Option QualifiedName
  | .elementEquals element _ => some element
  | .range (.element element) _ _ _ => some element
  | _ => none

def elements (query : Query) : List QualifiedName :=
  query.nodes.filterMap element?

@[simp]
theorem elements_allOf (queries : List Query) :
    (Query.allOf queries).elements = queries.flatMap elements :=
  parts_allOf element? queries rfl

@[simp]
theorem elements_anyOf (queries : List Query) :
    (Query.anyOf queries).elements = queries.flatMap elements :=
  parts_anyOf element? queries rfl

@[simp]
theorem elements_negate (query : Query) : (Query.negate query).elements = query.elements :=
  parts_negate element? query rfl

/-! ## Verbatim texts -/

def verbatim? : Query → Option String
  | .verbatim text _ => some text
  | _ => none

def verbatims (query : Query) : List String :=
  query.nodes.filterMap verbatim?

@[simp]
theorem verbatims_allOf (queries : List Query) :
    (Query.allOf queries).verbatims = queries.flatMap verbatims :=
  parts_allOf verbatim? queries rfl

@[simp]
theorem verbatims_anyOf (queries : List Query) :
    (Query.anyOf queries).verbatims = queries.flatMap verbatims :=
  parts_anyOf verbatim? queries rfl

@[simp]
theorem verbatims_negate (query : Query) : (Query.negate query).verbatims = query.verbatims :=
  parts_negate verbatim? query rfl

/-- No part of the query is a text that the caller wrote. -/
def VerbatimFree (query : Query) : Prop :=
  query.verbatims = []

instance (query : Query) : Decidable query.VerbatimFree :=
  inferInstanceAs (Decidable (query.verbatims = []))

theorem not_verbatimFree_verbatim (text : String) (encoding : Encoding) :
    ¬(Query.verbatim text encoding).VerbatimFree :=
  List.cons_ne_nil _ _

theorem verbatim?_eq_none_iff {node : Query} : node.verbatim? = none ↔ node.kind ≠ .verbatim := by
  cases node <;> simp [verbatim?, kind]

theorem verbatimFree_iff {query : Query} :
    query.VerbatimFree ↔ ∀ node ∈ query.nodes, node.kind ≠ .verbatim := by
  simp only [VerbatimFree, verbatims, List.filterMap_eq_nil_iff, verbatim?_eq_none_iff]

theorem VerbatimFree.kind_ne {query node : Query} (free : query.VerbatimFree)
    (mem : node ∈ query.nodes) : node.kind ≠ .verbatim :=
  verbatimFree_iff.mp free node mem

theorem verbatimFree_allOf {queries : List Query} :
    (Query.allOf queries).VerbatimFree ↔ ∀ query ∈ queries, query.VerbatimFree := by
  simp [VerbatimFree]

theorem verbatimFree_anyOf {queries : List Query} :
    (Query.anyOf queries).VerbatimFree ↔ ∀ query ∈ queries, query.VerbatimFree := by
  simp [VerbatimFree]

theorem verbatimFree_negate {query : Query} :
    (Query.negate query).VerbatimFree ↔ query.VerbatimFree := by
  simp [VerbatimFree]

end SearchRequest.Query

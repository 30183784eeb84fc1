import SearchRequest.Definition
import SearchRequest.Proofs.Query.Tree
import SearchRequest.Proofs.Registry

/-!
# Making queries

Every function that makes a query is called by a recipe.  What comes of a recipe is decided by the
recipe, the mode, and the reference with the name that the recipe asks for; nothing else in a
definition has a say in it.
-/

namespace SearchRequest.Definition

/-- A call that makes a query, with all that is given to it besides the definition. -/
inductive Recipe where
  /-- A named container has a value, as the mode asks for. -/
  | value (name content : String)
  | valueAs (kind : Container.Kind) (name content : String)
  /-- A named container compares with a bound, as the mode asks for. -/
  | range (name : String) (comparison : Option Comparison) (bound : String)
  | rangeAs (kind : Container.Kind) (name : String) (comparison : Option Comparison)
      (bound : String)
  | verbatim (text : String)
  | inCollections (names : List String)
  | atUris (uris : List String)
  | conjunction (queries : List Query)
  | disjunction (queries : List Query)
  | negation (query : Option Query)

namespace Recipe

def make (definition : Definition) : Recipe → Except Error Query
  | .value name content => definition.value name content
  | .valueAs kind name content => definition.valueAs kind name content
  | .range name comparison bound => definition.range name comparison bound
  | .rangeAs kind name comparison bound => definition.rangeAs kind name comparison bound
  | .verbatim text => .ok (definition.verbatim text)
  | .inCollections names => .ok (.inCollections names)
  | .atUris uris => .ok (.atUris uris)
  | .conjunction queries => Query.conjunction queries
  | .disjunction queries => Query.disjunction queries
  | .negation query => Query.negation query

def parts : Recipe → List Query
  | .conjunction queries | .disjunction queries => queries
  | .negation query => query.toList
  | _ => []

/-- The text that a recipe takes over as it stands. -/
def text? : Recipe → Option String
  | .verbatim text => some text
  | _ => none

end Recipe

section Named

variable {definition : Definition} {kind : Container.Kind} {name value bound : String}
  {comparison : Option Comparison} {query : Query}

theorem value_eq_ok_iff :
    definition.value name value = .ok query ↔ ∃ reference,
      definition.registry.find? name = some reference ∧
        valueOn reference (definition.kinds reference) value = .ok query :=
  Registry.resolve_bind_eq_ok_iff

theorem valueAs_eq_ok_iff :
    definition.valueAs kind name value = .ok query ↔ ∃ reference,
      definition.registry.find? name = some reference ∧
        valueOn reference [kind] value = .ok query :=
  Registry.resolve_bind_eq_ok_iff

theorem range_eq_ok_iff :
    definition.range name comparison bound = .ok query ↔ ∃ reference,
      definition.registry.find? name = some reference ∧
        rangeOn reference (definition.kinds reference) comparison bound = .ok query :=
  Registry.resolve_bind_eq_ok_iff

theorem rangeAs_eq_ok_iff :
    definition.rangeAs kind name comparison bound = .ok query ↔ ∃ reference,
      definition.registry.find? name = some reference ∧
        rangeOn reference [kind] comparison bound = .ok query :=
  Registry.resolve_bind_eq_ok_iff

end Named

namespace Recipe

variable {definition : Definition} {recipe : Recipe} {query : Query}

/-- A text that is taken over is the whole query. -/
theorem eq_verbatim_of_text? {text : String} (made : recipe.make definition = .ok query)
    (taken : text ∈ recipe.text?) : query = definition.verbatim text := by
  cases recipe <;> cases taken
  cases made
  rfl

/-- What is combined to a query without texts has no texts in it. -/
theorem free_part {part : Query} (made : recipe.make definition = .ok query)
    (free : query.VerbatimFree) (mem : part ∈ recipe.parts) : part.VerbatimFree := by
  cases recipe with
  | conjunction queries =>
      obtain ⟨-, rfl⟩ := Query.conjunction_eq_ok_iff.mp made
      exact Query.verbatimFree_allOf.mp free part mem
  | disjunction queries =>
      obtain ⟨-, rfl⟩ := Query.disjunction_eq_ok_iff.mp made
      exact Query.verbatimFree_anyOf.mp free part mem
  | negation inner =>
      obtain ⟨own, rfl, rfl⟩ := Query.negation_eq_ok_iff.mp made
      obtain rfl := List.mem_singleton.mp mem
      exact Query.verbatimFree_negate.mp free
  | _ => cases mem

end Recipe

/-- One of several queries has the nodes of those queries, and one of its own to combine them. -/
theorem forall_nodes_of_oneOrAny {holds : Query → Prop} {queries : List Query} {query : Query}
    (ofAny : queries ≠ [] → holds (.anyOf queries))
    (each : ∀ query ∈ queries, ∀ node ∈ query.nodes, holds node)
    (made : Query.oneOrAny queries = .ok query) : ∀ node ∈ query.nodes, holds node := by
  rcases Query.oneOrAny_cases made with rfl | ⟨someQuery, rfl⟩
  · exact each query List.mem_cons_self
  · exact Query.forall_nodes_anyOf.mpr ⟨ofAny someQuery, each⟩

theorem kinds_congr {definition later : Definition} (sameMode : later.mode = definition.mode)
    (reference : Reference) : later.kinds reference = definition.kinds reference := by
  rw [kinds, kinds, sameMode]

/-- Only the mode and the references that can be found decide what comes of a recipe. -/
theorem Recipe.make_congr_of_find? {definition other : Definition}
    (sameMode : other.mode = definition.mode)
    (sameFind : ∀ name, other.registry.find? name = definition.registry.find? name)
    (recipe : Recipe) : recipe.make other = recipe.make definition := by
  have sameResolve (name : String) :
      other.registry.resolve name = definition.registry.resolve name := by
    rw [Registry.resolve, Registry.resolve, sameFind]
  cases recipe with
  | value name content => simp only [make, Definition.value, sameResolve, kinds_congr sameMode]
  | valueAs kind name content => simp only [make, Definition.valueAs, sameResolve]
  | range name comparison bound =>
      simp only [make, Definition.range, sameResolve, kinds_congr sameMode]
  | rangeAs kind name comparison bound => simp only [make, Definition.rangeAs, sameResolve]
  | verbatim text => rw [make, make, Definition.verbatim, Definition.verbatim, sameMode]
  | _ => rfl

/-- A recipe that was good for a definition is good for any that keeps its mode and references. -/
theorem Recipe.make_of_kept {definition later : Definition} {recipe : Recipe} {query : Query}
    (sameMode : later.mode = definition.mode)
    (kept : ∀ name reference, definition.registry.find? name = some reference →
      later.registry.find? name = some reference)
    (made : recipe.make definition = .ok query) : recipe.make later = .ok query := by
  cases recipe with
  | value name content =>
      obtain ⟨reference, found, made⟩ := value_eq_ok_iff.mp made
      refine value_eq_ok_iff.mpr ⟨reference, kept name reference found, ?_⟩
      rwa [kinds_congr sameMode]
  | valueAs kind name content =>
      obtain ⟨reference, found, made⟩ := valueAs_eq_ok_iff.mp made
      exact valueAs_eq_ok_iff.mpr ⟨reference, kept name reference found, made⟩
  | range name comparison bound =>
      obtain ⟨reference, found, made⟩ := range_eq_ok_iff.mp made
      refine range_eq_ok_iff.mpr ⟨reference, kept name reference found, ?_⟩
      rwa [kinds_congr sameMode]
  | rangeAs kind name comparison bound =>
      obtain ⟨reference, found, made⟩ := rangeAs_eq_ok_iff.mp made
      exact rangeAs_eq_ok_iff.mpr ⟨reference, kept name reference found, made⟩
  | verbatim text =>
      rw [make, Definition.verbatim, sameMode]
      exact made
  | _ => exact made

end SearchRequest.Definition

import Mathlib.Data.List.Basic
import SearchRequest.Query.Qualify
import SearchRequest.Proofs.Query.Tree

/-!
# Changing the names of elements

The default namespace is one of the changes that touch the names of the elements of a
query and nothing else.  Another one forgets the empty namespace: an element that was put
in it on purpose becomes an unqualified one.  Neither can be told from what is written.
-/

namespace SearchRequest

namespace QualifiedName

/-- The name without its namespace, where that one is empty. -/
def normal (name : QualifiedName) : QualifiedName :=
  { name with space := name.space.filter (· ≠ "") }

theorem normal_eq_self_iff {name : QualifiedName} : name.normal = name ↔ name.space ≠ some "" := by
  obtain ⟨name, space⟩ := name
  cases space <;> simp [normal, Option.filter]

@[simp]
theorem writtenSpace_normal (name : QualifiedName) :
    name.normal.writtenSpace = name.writtenSpace := by
  obtain ⟨name, space⟩ := name
  cases space with
  | none => rfl
  | some space =>
      by_cases empty : space = "" <;> simp [normal, writtenSpace, Option.filter, empty]

/-- A name is known from its parts as they are written, up to the empty namespace. -/
theorem inSpace_writtenSpace (name : QualifiedName) :
    inSpace name.name name.writtenSpace = name.normal := by
  obtain ⟨name, space⟩ := name
  cases space with
  | none => rfl
  | some space =>
      by_cases empty : space = "" <;> simp [normal, writtenSpace, inSpace, Option.filter, empty]

theorem space_inSpace_ne (name space : String) : (inSpace name space).space ≠ some "" := by
  by_cases empty : space = "" <;> simp [inSpace, empty]

/-- A name comes through the default namespace and back if no namespace is empty or missing. -/
theorem normal_qualify_eq_self_iff {space : String} {name : QualifiedName} :
    (name.qualify space).normal = name ↔
      name.space ≠ some "" ∧ (space = "" ∨ name.space ≠ none) := by
  obtain ⟨name, own⟩ := name
  cases own with
  | none =>
      by_cases empty : space = ""
      · simp [qualify, normal, empty]
      · simp [qualify, normal, Option.filter, empty]
  | some own => simp [qualify, normal_eq_self_iff]

theorem normal_eq_iff {name name' : QualifiedName} :
    name.normal = name'.normal ↔
      name.name = name'.name ∧ name.writtenSpace = name'.writtenSpace := by
  constructor
  · intro same
    have sameName : name.normal.name = name'.normal.name := by rw [same]
    refine ⟨sameName, ?_⟩
    rw [← writtenSpace_normal name, same, writtenSpace_normal]
  · rintro ⟨sameName, sameSpace⟩
    rw [← inSpace_writtenSpace, ← inSpace_writtenSpace, sameName, sameSpace]

end QualifiedName

def Container.mapElement (change : QualifiedName → QualifiedName) : Container → Container
  | .property name => .property name
  | .element name => .element (change name)

namespace Query

variable (change : QualifiedName → QualifiedName)

mutual

def mapElements : Query → Query
  | .verbatim text encoding => .verbatim text encoding
  | .propertyEquals property value => .propertyEquals property value
  | .elementEquals element value => .elementEquals (change element) value
  | .range container comparison bound rangeType =>
      .range (container.mapElement change) comparison bound rangeType
  | .allOf queries => .allOf (mapElementsAll queries)
  | .anyOf queries => .anyOf (mapElementsAll queries)
  | .negate query => .negate query.mapElements
  | .inCollections names => .inCollections names
  | .atUris uris => .atUris uris

def mapElementsAll : List Query → List Query
  | [] => []
  | query :: rest => query.mapElements :: mapElementsAll rest

end

theorem mapElementsAll_eq_map (queries : List Query) :
    mapElementsAll change queries = queries.map (mapElements change) := by
  induction queries with
  | nil => rfl
  | cons query rest ih => rw [mapElementsAll, List.map_cons, ih]

/-- The default namespace changes the names of the elements only. -/
theorem qualify_eq_mapElements (space : String) (query : Query) :
    query.qualify space = query.mapElements (QualifiedName.qualify space) := by
  induction query using Query.induction with
  | range container comparison bound rangeType => cases container <;> rfl
  | allOf queries ih =>
      rw [qualify, mapElements, qualifyAll_eq_map, mapElementsAll_eq_map, List.map_congr_left ih]
  | anyOf queries ih =>
      rw [qualify, mapElements, qualifyAll_eq_map, mapElementsAll_eq_map, List.map_congr_left ih]
  | negate query ih => rw [qualify, mapElements, ih]
  | _ => rfl

variable {change}

theorem mapElements_mapElements (change' : QualifiedName → QualifiedName) (query : Query) :
    (query.mapElements change).mapElements change' = query.mapElements (change' ∘ change) := by
  induction query using Query.induction with
  | range container comparison bound rangeType => cases container <;> rfl
  | allOf queries ih =>
      simp only [mapElements, mapElementsAll_eq_map, List.map_map]
      exact congrArg Query.allOf (List.map_congr_left ih)
  | anyOf queries ih =>
      simp only [mapElements, mapElementsAll_eq_map, List.map_map]
      exact congrArg Query.anyOf (List.map_congr_left ih)
  | negate query ih => rw [mapElements, mapElements, mapElements, ih]
  | _ => rfl

/-- The walk goes through the same places as before. -/
theorem nodes_mapElements (query : Query) :
    (query.mapElements change).nodes = query.nodes.map (mapElements change) := by
  have ofAll {queries : List Query} (ofEach : ∀ query ∈ queries,
      (query.mapElements change).nodes = query.nodes.map (mapElements change)) :
      nodesAll (mapElementsAll change queries) = (nodesAll queries).map (mapElements change) := by
    rw [nodesAll_eq_flatMap, nodesAll_eq_flatMap, mapElementsAll_eq_map, List.flatMap_map,
      List.map_flatMap]
    exact List.flatMap_congr ofEach
  induction query using Query.induction with
  | allOf queries ih => rw [mapElements, nodes, nodes, List.map_cons, ofAll ih, mapElements]
  | anyOf queries ih => rw [mapElements, nodes, nodes, List.map_cons, ofAll ih, mapElements]
  | negate query ih => rw [mapElements, nodes, nodes, List.map_cons, ih, mapElements]
  | _ => rfl

theorem element?_mapElements (node : Query) :
    (node.mapElements change).element? = node.element?.map change := by
  cases node with
  | range container comparison bound rangeType => cases container <;> rfl
  | _ => rfl

theorem verbatim?_mapElements (node : Query) :
    (node.mapElements change).verbatim? = node.verbatim? := by
  cases node <;> rfl

theorem elements_mapElements (query : Query) :
    (query.mapElements change).elements = query.elements.map change := by
  rw [elements, nodes_mapElements, List.filterMap_map, elements, List.map_filterMap]
  exact List.filterMap_congr fun node _ => element?_mapElements node

@[simp]
theorem verbatims_mapElements (query : Query) :
    (query.mapElements change).verbatims = query.verbatims := by
  rw [verbatims, nodes_mapElements, List.filterMap_map, verbatims]
  exact List.filterMap_congr fun node _ => verbatim?_mapElements node

/-- A query stays the same exactly when the name of each of its elements does. -/
theorem mapElements_eq_self_iff {query : Query} :
    query.mapElements change = query ↔ ∀ element ∈ query.elements, change element = element := by
  have ofAll {queries : List Query}
      (ofEach : ∀ query ∈ queries, (query.mapElements change = query ↔
        ∀ element ∈ query.elements, change element = element)) :
      queries.map (mapElements change) = queries ↔
        ∀ element ∈ queries.flatMap elements, change element = element := by
    have each : queries.map (mapElements change) = queries.map id ↔
        ∀ query ∈ queries, query.mapElements change = query := List.map_inj_left
    rw [List.map_id] at each
    rw [each, List.forall_mem_flatMap]
    exact forall₂_congr ofEach
  induction query using Query.induction with
  | verbatim text encoding => simp [mapElements, elements, nodes, element?]
  | propertyEquals property value => simp [mapElements, elements, nodes, element?]
  | elementEquals element value => simp [mapElements, elements, nodes, element?]
  | range container comparison bound rangeType =>
      cases container <;> simp [mapElements, Container.mapElement, elements, nodes, element?]
  | allOf queries ih =>
      rw [mapElements, mapElementsAll_eq_map, Query.allOf.injEq, elements_allOf, ofAll ih]
  | anyOf queries ih =>
      rw [mapElements, mapElementsAll_eq_map, Query.anyOf.injEq, elements_anyOf, ofAll ih]
  | negate query ih =>
      rw [mapElements, Query.negate.injEq, elements_negate]
      exact ih
  | inCollections names => simp [mapElements, elements, nodes, element?]
  | atUris uris => simp [mapElements, elements, nodes, element?]

theorem VerbatimFree.mapElements {query : Query} (free : query.VerbatimFree) :
    (query.mapElements change).VerbatimFree := by
  rw [VerbatimFree, verbatims_mapElements]
  exact free

/-! ## Forgetting the empty namespace -/

/-- The query in which no element is in the empty namespace. -/
def normal (query : Query) : Query :=
  query.mapElements QualifiedName.normal

theorem normal_allOf (queries : List Query) :
    (Query.allOf queries).normal = .allOf (queries.map normal) := by
  rw [normal, mapElements, mapElementsAll_eq_map]
  rfl

theorem normal_anyOf (queries : List Query) :
    (Query.anyOf queries).normal = .anyOf (queries.map normal) := by
  rw [normal, mapElements, mapElementsAll_eq_map]
  rfl

theorem normal_equals_eq_iff {container container' : Container} {value value' : String} :
    (equals container value).normal = (equals container' value').normal ↔
      container.mapElement .normal = container'.mapElement .normal ∧ value = value' := by
  cases container <;> cases container' <;>
    simp [equals, normal, mapElements, Container.mapElement]

/-- The query itself comes back if none of its elements is in the empty namespace or lacks one. -/
theorem normal_qualify_eq_self_iff {space : String} {query : Query} :
    (query.qualify space).normal = query ↔
      (∀ element ∈ query.elements, element.space ≠ some "") ∧
        (space = "" ∨ ∀ element ∈ query.elements, element.space ≠ none) := by
  rw [normal, qualify_eq_mapElements, mapElements_mapElements, mapElements_eq_self_iff]
  simp only [Function.comp_apply, QualifiedName.normal_qualify_eq_self_iff]
  constructor
  · intro each
    refine ⟨fun element mem => (each element mem).1, ?_⟩
    by_cases empty : space = ""
    · exact Or.inl empty
    · exact Or.inr fun element mem => (each element mem).2.resolve_left empty
  · rintro ⟨noEmpty, unqualified⟩ element mem
    exact ⟨noEmpty element mem, unqualified.imp_right fun all => all element mem⟩

end Query

end SearchRequest

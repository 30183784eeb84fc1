import SearchRequest.Proofs.Query.Elements
import SearchRequest.Proofs.Query.Meaning

/-!
# The depth of a query

Every query opens a fixed number of brackets around the queries below it, so the open
brackets of its text are counted on the tree.
-/

namespace SearchRequest

open Json (Draft bracketDepth)

namespace Query

mutual

/-- The greatest number of brackets that are open at once in the JSON text of a query. -/
def depth : Query → Nat
  | .verbatim text _ => bracketDepth text
  | .propertyEquals _ _ | .elementEquals _ _ | .range _ _ _ _ | .inCollections _ | .atUris _ => 3
  | .allOf queries | .anyOf queries => depthAll queries + 3
  | .negate query => query.depth + 1

def depthAll : List Query → Nat
  | [] => 0
  | query :: rest => max query.depth (depthAll rest)

end

@[simp]
theorem depth_mapElements (change : QualifiedName → QualifiedName) (query : Query) :
    (query.mapElements change).depth = query.depth := by
  have ofAll {queries : List Query}
      (ofEach : ∀ query ∈ queries, (query.mapElements change).depth = query.depth) :
      depthAll (mapElementsAll change queries) = depthAll queries := by
    induction queries with
    | nil => rfl
    | cons query rest ih =>
        rw [List.forall_mem_cons] at ofEach
        rw [mapElementsAll, depthAll, depthAll, ofEach.1, ih ofEach.2]
  induction query using Query.induction with
  | allOf queries ih => rw [mapElements, depth, depth, ofAll ih]
  | anyOf queries ih => rw [mapElements, depth, depth, ofAll ih]
  | negate query ih => rw [mapElements, depth, depth, ih]
  | _ => rfl

theorem depth_valueJson (container : Container) (value : String) :
    (valueJson container value).spelling.depth = 3 := by
  rw [valueJson, Draft.depth_tagged]
  cases container <;>
    simp [Draft.spelling, Draft.spellingMembers, Json.Spelling.depth, Json.Spelling.depthMembers,
      Container.json, Draft.depth_texts]

theorem depth_rangeJson (container : Container) (comparison : Option Comparison)
    (bound rangeType : String) :
    (Query.range container comparison bound rangeType).json.spelling.depth = 3 := by
  rw [json, Draft.depth_tagged]
  cases container <;>
    simp [Draft.spelling, Draft.spellingMembers, Json.Spelling.depth, Json.Spelling.depthMembers,
      Container.json, Draft.depth_texts]

theorem depth_setJson (kind : Kind) (uris : List String) :
    (setJson kind uris).spelling.depth = 3 := by
  rw [setJson, Draft.depth_tagged, Draft.depth_tagged, Draft.depth_texts]

theorem depth_listing {queries : List Query}
    (deep : ∀ query ∈ queries, query.json.spelling.depth = query.depth) :
    (Draft.tagged "queries" (.array (jsonAll queries))).spelling.depth =
      depthAll queries + 2 := by
  have all : Json.Spelling.depthItems (Draft.spellingItems (jsonAll queries)) =
      depthAll queries := by
    induction queries with
    | nil => rfl
    | cons query rest ih =>
        rw [List.forall_mem_cons] at deep
        rw [jsonAll, Draft.spellingItems, Json.Spelling.depthItems, depthAll, deep.1, ih deep.2]
  rw [Draft.depth_tagged, Draft.spelling, Json.Spelling.depth, all]

theorem depth_json {query : Query} (legible : query.Legible) :
    query.json.spelling.depth = query.depth := by
  induction query using Query.induction with
  | verbatim text encoding =>
      obtain ⟨spelling, _, spelled, _⟩ := Json.exists_spelling (legible text List.mem_cons_self)
      rw [json, Draft.spelling, spelled, depth, Json.bracketDepth_eq_depth spelled]
      rfl
  | propertyEquals property value => exact depth_valueJson _ _
  | elementEquals element value => exact depth_valueJson _ _
  | range container comparison bound rangeType => exact depth_rangeJson _ _ _ _
  | allOf queries ih =>
      rw [json, compositeJson, Draft.depth_tagged, depth, depth_listing fun query mem =>
        ih query mem (legible_allOf.mp legible query mem)]
  | anyOf queries ih =>
      rw [json, compositeJson, Draft.depth_tagged, depth, depth_listing fun query mem =>
        ih query mem (legible_anyOf.mp legible query mem)]
  | negate query ih => rw [json, Draft.depth_tagged, ih (legible_negate.mp legible), depth]
  | inCollections names => exact depth_setJson _ _
  | atUris uris => exact depth_setJson _ _

/-- The brackets of a query's JSON text are counted on its tree. -/
theorem bracketDepth_render {query : Query} (legible : query.Legible) :
    bracketDepth (query.render .json) = query.depth := by
  rw [← depth_json legible]
  exact Json.bracketDepth_eq_depth legible.json.ofText?_render

end Query

end SearchRequest

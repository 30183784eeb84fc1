import Mathlib.Data.List.Basic
import SearchRequest.Proofs.Json.Meaning
import SearchRequest.Proofs.Query.Faults
import SearchRequest.Proofs.Query.Tree

/-!
# What a written query means

The JSON form of a query means a value that is put together from the meanings of its
parts.  A verbatim text takes part in it with whatever it means on its own, however it is
spelled and wherever it stands.
-/

namespace SearchRequest

open Json (Draft single)

def Container.meaning : Container → String × Json
  | .property name => ("json-property", .text name)
  | .element name =>
      ("element", .ofMembers [("name", .text name.name), ("ns", .text name.writtenSpace)])

namespace Query

def valueBody (container : Container) (value : String) : Json :=
  .ofMembers [("type", .text "string"), container.meaning, ("text", .array [.text value])]

def rangeBody (container : Container) (comparison : Option Comparison)
    (bound rangeType : String) : Json :=
  .ofMembers [("type", .text rangeType), container.meaning, ("value", .array [.text bound]),
    ("range-operator", .text (Comparison.tokenOrUnset comparison))]

def compositeMeaning (kind : Kind) (queries : List Json) : Json :=
  single kind.tag (single "queries" (.array queries))

def setMeaning (kind : Kind) (uris : List String) : Json :=
  single kind.tag (single "uri" (.array (uris.map .text)))

mutual

/-- The value that the JSON form of a query stands for. -/
def meaning : Query → Json
  | .verbatim text _ => (Json.ofText? text).getD .null
  | .propertyEquals property value => single Kind.value.tag (valueBody (.property property) value)
  | .elementEquals element value => single Kind.value.tag (valueBody (.element element) value)
  | .range container comparison bound rangeType =>
      single Kind.range.tag (rangeBody container comparison bound rangeType)
  | .allOf queries => compositeMeaning .allOf (meaningAll queries)
  | .anyOf queries => compositeMeaning .anyOf (meaningAll queries)
  | .negate query => single Kind.negate.tag query.meaning
  | .inCollections names => setMeaning .collections names
  | .atUris uris => setMeaning .documents uris

def meaningAll : List Query → List Json
  | [] => []
  | query :: rest => query.meaning :: meaningAll rest

end

theorem meaningAll_eq_map (queries : List Query) : meaningAll queries = queries.map meaning := by
  induction queries with
  | nil => rfl
  | cons query rest ih => rw [meaningAll, List.map_cons, ih]

/-- Every verbatim text in the query is the text of a JSON value. -/
def Legible (query : Query) : Prop :=
  ∀ text ∈ query.verbatims, (Json.ofText? text).isSome = true

theorem legible_allOf {queries : List Query} :
    (Query.allOf queries).Legible ↔ ∀ query ∈ queries, query.Legible := by
  rw [Legible, verbatims_allOf, List.forall_mem_flatMap]
  rfl

theorem legible_anyOf {queries : List Query} :
    (Query.anyOf queries).Legible ↔ ∀ query ∈ queries, query.Legible := by
  rw [Legible, verbatims_anyOf, List.forall_mem_flatMap]
  rfl

theorem legible_negate {query : Query} : (Query.negate query).Legible ↔ query.Legible := by
  rw [Legible, verbatims_negate]
  rfl

theorem VerbatimFree.legible {query : Query} (free : query.VerbatimFree) : query.Legible := by
  intro text mem
  rw [free] at mem
  cases mem

theorem verbatims_listing (queries : List Query) :
    (Draft.tagged "queries" (.array (jsonAll queries))).verbatims =
      queries.flatMap fun query => query.json.verbatims := by
  rw [Draft.verbatims_tagged, Draft.verbatims, Draft.verbatimsItems_eq_flatMap, jsonAll_eq_map,
    List.flatMap_map]

/-- The JSON form of a query holds the verbatim texts of the query and no others. -/
theorem verbatims_json (query : Query) : query.json.verbatims = query.verbatims := by
  have ofSet (kind : Kind) (uris : List String) : (setJson kind uris).verbatims = [] := by
    rw [setJson, Draft.verbatims_tagged, Draft.verbatims_tagged, Draft.texts, Draft.verbatims,
      Draft.verbatimsItems_eq_flatMap, List.flatMap_map]
    exact List.flatMap_eq_nil_iff.mpr fun _ _ => rfl
  have ofComposite {queries : List Query} (kind : Kind)
      (ofEach : ∀ query ∈ queries, query.json.verbatims = query.verbatims) :
      (compositeJson kind (jsonAll queries)).verbatims = queries.flatMap verbatims := by
    rw [compositeJson, Draft.verbatims_tagged, verbatims_listing]
    exact List.flatMap_congr ofEach
  induction query using Query.induction with
  | verbatim text encoding => rfl
  | propertyEquals property value => rfl
  | elementEquals element value => rfl
  | range container comparison bound rangeType => cases container <;> rfl
  | allOf queries ih => rw [json, ofComposite _ ih, verbatims_allOf]
  | anyOf queries ih => rw [json, ofComposite _ ih, verbatims_anyOf]
  | negate query ih => rw [json, Draft.verbatims_tagged, ih, verbatims_negate]
  | inCollections names => exact ofSet _ names
  | atUris uris => exact ofSet _ uris

theorem value?_container (container : Container) :
    container.json.2.spelling.value?.map (container.json.1, ·) = some container.meaning := by
  cases container <;> rfl

theorem value?_valueJson (container : Container) (value : String) :
    (valueJson container value).spelling.value? =
      some (single Kind.value.tag (valueBody container value)) := by
  apply Draft.value?_tagged
  apply Draft.value?_object
  simp only [List.mapM_cons, value?_container, Draft.value?_text, Draft.value?_texts]
  rfl

theorem value?_listing {queries : List Query}
    (valued : ∀ query ∈ queries, query.json.spelling.value? = some query.meaning) :
    (Draft.tagged "queries" (.array (jsonAll queries))).spelling.value? =
      some (single "queries" (.array (meaningAll queries))) := by
  rw [jsonAll_eq_map, meaningAll_eq_map]
  exact Draft.value?_tagged (Draft.value?_array valued)

theorem value?_setJson (kind : Kind) (uris : List String) :
    (setJson kind uris).spelling.value? = some (setMeaning kind uris) :=
  Draft.value?_tagged (Draft.value?_tagged (Draft.value?_texts uris))

/-- The JSON form of a query has the meaning of the query as its value. -/
theorem value?_json {query : Query} (legible : query.Legible) :
    query.json.spelling.value? = some query.meaning := by
  induction query using Query.induction with
  | verbatim text encoding =>
      obtain ⟨spelling, value, spelled, valued, read⟩ :=
        Json.exists_spelling (legible text List.mem_cons_self)
      rw [json, Draft.spelling, spelled, meaning, read]
      exact valued
  | propertyEquals property value => exact value?_valueJson _ _
  | elementEquals element value => exact value?_valueJson _ _
  | range container comparison bound rangeType =>
      apply Draft.value?_tagged
      apply Draft.value?_object
      simp only [List.mapM_cons, value?_container, Draft.value?_text, Draft.value?_texts]
      rfl
  | allOf queries ih =>
      exact Draft.value?_tagged
        (value?_listing fun query mem => ih query mem (legible_allOf.mp legible query mem))
  | anyOf queries ih =>
      exact Draft.value?_tagged
        (value?_listing fun query mem => ih query mem (legible_anyOf.mp legible query mem))
  | negate query ih => exact Draft.value?_tagged (ih (legible_negate.mp legible))
  | inCollections names => exact value?_setJson _ _
  | atUris uris => exact value?_setJson _ _

theorem Legible.json {query : Query} (legible : query.Legible) : query.json.Legible := by
  intro text mem
  rw [verbatims_json] at mem
  obtain ⟨spelling, _, spelled, _⟩ := Json.exists_spelling (legible text mem)
  rw [spelled]
  rfl

/-- The text of a query means the query as long as it has at most 127 brackets open. -/
theorem ofText?_render {query : Query} (legible : query.Legible) :
    Json.ofText? (query.render .json) =
      if Json.bracketDepth (query.render .json) ≤ 127 then some query.meaning else none := by
  have spelled : Json.Spelling.ofText? (query.render .json) = some query.json.spelling :=
    legible.json.ofText?_render
  rw [Json.ofText?_eq spelled, value?_json legible]

/--
A query that was written as JSON means what its parts mean, put together in their order: the
text is read as that value unless it has more than 127 brackets open somewhere.
-/
theorem ofText?_encode {query : Query} {text : String} (written : query.encode .json = .ok text)
    (legible : ∀ verbatim ∈ query.verbatims, (Json.ofText? verbatim).isSome = true)
    (shallow : Json.bracketDepth text ≤ 127) : Json.ofText? text = some query.meaning := by
  obtain ⟨_, rfl⟩ := encode_eq_ok_iff.mp written
  rw [ofText?_render legible, if_pos shallow]

def spacedQuery : Query :=
  .allOf [.verbatim " [true, \x7b\"b\": null\x7d]\n" .json, .negate (.verbatim "17" .json),
    .elementEquals ⟨"e", some ""⟩ "a\"b\n"]

/-- Verbatim texts take part in a query without their blanks. -/
theorem ofText?_encode_spacedQuery :
    spacedQuery.encode .json = .ok (spacedQuery.render .json) ∧
    (∀ verbatim ∈ spacedQuery.verbatims, (Json.ofText? verbatim).isSome = true) ∧
    Json.bracketDepth (spacedQuery.render .json) ≤ 127 ∧
    Json.ofText? (spacedQuery.render .json) = some (single "and-query" (single "queries" (.array
      [.array [.bool true, single "b" .null],
        single "not-query" (.number (.integer 17 (by decide))),
        single "value-query" (.object
          [("element", .object [("name", .text "e"), ("ns", .text "")]),
            ("text", .array [.text "a\"b\n"]), ("type", .text "string")])]))) := by
  have written : spacedQuery.encode .json = .ok (spacedQuery.render .json) := rfl
  have legible : ∀ verbatim ∈ spacedQuery.verbatims,
      (Json.ofText? verbatim).isSome = true := by decide
  have shallow : Json.bracketDepth (spacedQuery.render .json) ≤ 127 := by decide +kernel
  exact ⟨written, legible, shallow, ofText?_encode written legible shallow⟩

end Query

end SearchRequest

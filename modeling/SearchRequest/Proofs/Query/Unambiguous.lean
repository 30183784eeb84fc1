import SearchRequest.Proofs.Query.Meaning
import SearchRequest.Proofs.Query.Telling

/-!
# Queries that cannot be confused

The text of a query shows where it ends and which query it is, in either encoding.  Queries
with faults are written too, so this does not depend on reading them.
-/

namespace SearchRequest.Query

/-! ## The elements of a query -/

/-- The elements that hold characters. -/
def textualTags : List String :=
  ["json-property", "text", "value", "range-operator", "uri"]

/-- The draft is made of elements of which only those with a textual tag hold characters. -/
abbrev Wellformed (draft : Xml.Draft) : Prop :=
  draft.Regular (· ∈ textualTags)

theorem wellformed_leaf {tag : String} (textual : tag ∈ textualTags) (content : String) :
    Wellformed (.leaf tag content) := by
  have named : ∀ tag ∈ textualTags, Xml.IsName tag := by decide
  exact .leaf content ⟨named tag textual, by simp⟩ textual

theorem wellformed_container (container : Container) : Wellformed container.xml := by
  cases container with
  | property name => exact wellformed_leaf (by decide) name
  | element name => exact .hollow ⟨by decide, by simp; decide⟩

theorem wellformed_element (kind : Kind) {attributes : List (String × String)}
    (named : ∀ entry ∈ attributes, Xml.IsName entry.1) {children : List Xml.Draft}
    (each : ∀ child ∈ children, Wellformed child) :
    Wellformed (.element kind.tag attributes children) := by
  have isName : Xml.IsName kind.tag := by cases kind <;> decide
  have holdsElements : kind.tag ∉ textualTags := by cases kind <;> decide
  exact .branch ⟨isName, named⟩ holdsElements each

theorem wellformed_valueXml (container : Container) (value : String) :
    Wellformed (valueXml container value) := by
  refine wellformed_element .value (by simp; decide) ?_
  rw [List.forall_mem_cons, List.forall_mem_singleton]
  exact ⟨wellformed_container container, wellformed_leaf (by decide) value⟩

theorem wellformed_setXml (kind : Kind) (uris : List String) :
    Wellformed (setXml kind uris) := by
  refine wellformed_element kind (by simp) ?_
  rw [List.forall_mem_map]
  intro uri mem
  exact wellformed_leaf (by decide) uri

/-- Without verbatim texts, the XML form of a query is made of elements only. -/
theorem wellformed_xml {query : Query} (free : query.VerbatimFree) : Wellformed query.xml := by
  induction query using Query.induction with
  | verbatim text encoding => exact absurd free (not_verbatimFree_verbatim text encoding)
  | propertyEquals property value => exact wellformed_valueXml (.property property) value
  | elementEquals element value => exact wellformed_valueXml (.element element) value
  | range container comparison bound rangeType =>
      refine wellformed_element .range (by simp; decide) ?_
      rw [List.forall_mem_cons, List.forall_mem_cons, List.forall_mem_singleton]
      exact ⟨wellformed_container container, wellformed_leaf (by decide) bound,
        wellformed_leaf (by decide) _⟩
  | allOf queries ih =>
      rw [verbatimFree_allOf] at free
      refine wellformed_element .allOf (by simp) ?_
      rw [xmlAll_eq_map, List.forall_mem_map]
      intro query mem
      exact ih query mem (free query mem)
  | anyOf queries ih =>
      rw [verbatimFree_anyOf] at free
      refine wellformed_element .anyOf (by simp) ?_
      rw [xmlAll_eq_map, List.forall_mem_map]
      intro query mem
      exact ih query mem (free query mem)
  | negate query ih =>
      rw [verbatimFree_negate] at free
      refine wellformed_element .negate (by simp) ?_
      rw [List.forall_mem_singleton]
      exact ih free
  | inCollections names => exact wellformed_setXml .collections names
  | atUris uris => exact wellformed_setXml .documents uris

/-! ## The texts of a query -/

/-- The text of a query can be cut off any longer text, and gives back the query. -/
theorem render_append_eq_iff {query query' : Query} (free : query.VerbatimFree)
    (free' : query'.VerbatimFree) (encoding : Encoding) (rest rest' : String) :
    query.render encoding ++ rest = query'.render encoding ++ rest' ↔
      query.normal = query'.normal ∧ rest = rest' := by
  constructor
  · intro same
    have characters : (query.render encoding).toList ++ rest.toList =
        (query'.render encoding).toList ++ rest'.toList := by
      rw [← String.toList_append, same, String.toList_append]
    cases encoding with
    | json =>
        have jsonFree : query.json.VerbatimFree := (verbatims_json query).trans free
        have jsonFree' : query'.json.VerbatimFree := (verbatims_json query').trans free'
        obtain ⟨sameJson, sameRest⟩ := jsonFree.render_append_inj jsonFree' characters
        exact ⟨(telling_json.eq_iff free free').mp sameJson, String.toList_inj.mp sameRest⟩
    | xml =>
        obtain ⟨sameXml, sameRest⟩ :=
          (wellformed_xml free).render_append_inj (wellformed_xml free') characters
        exact ⟨(telling_xml.eq_iff free free').mp sameXml, String.toList_inj.mp sameRest⟩
  · rintro ⟨sameQuery, rfl⟩
    cases encoding with
    | json => rw [render, render, (telling_json.eq_iff free free').mpr sameQuery]
    | xml => rw [render, render, (telling_xml.eq_iff free free').mpr sameQuery]

theorem render_eq_iff {query query' : Query} (free : query.VerbatimFree)
    (free' : query'.VerbatimFree) (encoding : Encoding) :
    query.render encoding = query'.render encoding ↔ query.normal = query'.normal := by
  have cut := render_append_eq_iff free free' encoding "" ""
  rwa [String.append_empty, String.append_empty, eq_self, and_true] at cut

/--
Neither encoding confuses two queries without verbatim texts.  If one text begins with the
texts of both, then they are the same query up to the empty namespace, and the rests behind
them are the same.  So one encoding writes two queries alike exactly when the other one does.
-/
theorem render_unambiguous {query query' : Query} (free : query.VerbatimFree)
    (free' : query'.VerbatimFree) :
    (∀ encoding rest rest', query.render encoding ++ rest = query'.render encoding ++ rest' →
      query.normal = query'.normal ∧ rest = rest') ∧
    (query.render .json = query'.render .json ↔ query.render .xml = query'.render .xml) := by
  constructor
  · intro encoding rest rest' same
    exact (render_append_eq_iff free free' encoding rest rest').mp same
  · rw [render_eq_iff free free' .json, render_eq_iff free free' .xml]

def markupQuery (space : Option String) : Query :=
  .allOf [.elementEquals ⟨"a", space⟩ "</text>&quot;", .range (.property "") none "\"" "]",
    .anyOf [], .inCollections []]

/-- The empty namespace is written like no namespace, and any other one unlike it. -/
theorem render_unambiguous_markupQuery :
    (markupQuery none).VerbatimFree ∧ (markupQuery (some "")).VerbatimFree ∧
      (markupQuery (some "urn:a")).VerbatimFree ∧
      (markupQuery none).render .json = (markupQuery (some "")).render .json ∧
      (markupQuery none).render .xml = (markupQuery (some "")).render .xml ∧
      ∀ encoding rest rest', (markupQuery none).render encoding ++ rest ≠
        (markupQuery (some "urn:a")).render encoding ++ rest' := by
  have free : (markupQuery none).VerbatimFree := by decide
  have emptyFree : (markupQuery (some "")).VerbatimFree := by decide
  have otherFree : (markupQuery (some "urn:a")).VerbatimFree := by decide
  have json : (markupQuery none).render .json = (markupQuery (some "")).render .json := rfl
  refine ⟨free, emptyFree, otherFree, json, (render_unambiguous free emptyFree).2.mp json, ?_⟩
  intro encoding rest rest' same
  have normal := ((render_unambiguous free otherFree).1 encoding rest rest' same).1
  exact absurd normal (by decide)

end SearchRequest.Query

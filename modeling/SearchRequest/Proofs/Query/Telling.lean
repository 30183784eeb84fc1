import SearchRequest.Proofs.Comparison
import SearchRequest.Proofs.Json.Unambiguous
import SearchRequest.Proofs.Query.Elements
import SearchRequest.Proofs.Xml.Unambiguous
import SearchRequest.Query.Json
import SearchRequest.Query.Xml

/-!
# Queries told apart by their encodings

The JSON form and the XML form of a query differ in almost everything, but they show the
same: what a query is made of, except for whether an element was put in the empty namespace.
-/

namespace SearchRequest

theorem Comparison.ofToken?_tokenOrUnset (comparison : Option Comparison) :
    ofToken? (tokenOrUnset comparison) = comparison := by
  rcases comparison with _ | comparison
  · decide
  · exact ofToken?_token comparison

theorem Comparison.tokenOrUnset_inj {comparison comparison' : Option Comparison} :
    tokenOrUnset comparison = tokenOrUnset comparison' ↔ comparison = comparison' := by
  constructor
  · intro same
    rw [← ofToken?_tokenOrUnset comparison, same, ofToken?_tokenOrUnset]
  · rintro rfl
    rfl

theorem Container.json_eq_iff {container container' : Container} :
    container.json = container'.json ↔
      container.mapElement .normal = container'.mapElement .normal := by
  cases container <;> cases container' <;>
    simp [Container.json, Container.mapElement, QualifiedName.normal_eq_iff]

theorem Container.xml_eq_iff {container container' : Container} :
    container.xml = container'.xml ↔
      container.mapElement .normal = container'.mapElement .normal := by
  cases container <;> cases container' <;>
    simp [Container.xml, Container.mapElement, QualifiedName.normal_eq_iff, Xml.Draft.leaf,
      and_comm]

namespace Query

theorem Kind.ofTag_tag (kind : Kind) : ofTag kind.tag = kind := by
  cases kind <;> decide

theorem Kind.tag_injective {kind kind' : Kind} (same : kind.tag = kind'.tag) : kind = kind' := by
  rw [← ofTag_tag kind, same, ofTag_tag]

theorem kind_normal (query : Query) : query.normal.kind = query.kind := by
  cases query <;> rfl

/-! ## What an encoding has to tell apart -/

/-- The encoding shows what a query is made of, except for an element in the empty namespace. -/
structure Telling {α : Type} (write : Query → α) : Prop where
  kind : ∀ {query query' : Query}, query.VerbatimFree → query'.VerbatimFree →
    write query = write query' → query.kind = query'.kind
  equals : ∀ container container' value value',
    write (equals container value) = write (equals container' value') ↔
      container.mapElement .normal = container'.mapElement .normal ∧ value = value'
  range : ∀ container container' comparison comparison' bound bound' rangeType rangeType',
    write (.range container comparison bound rangeType) =
        write (.range container' comparison' bound' rangeType') ↔
      container.mapElement .normal = container'.mapElement .normal ∧
        comparison = comparison' ∧ bound = bound' ∧ rangeType = rangeType'
  allOf : ∀ queries queries', write (.allOf queries) = write (.allOf queries') ↔
    queries.map write = queries'.map write
  anyOf : ∀ queries queries', write (.anyOf queries) = write (.anyOf queries') ↔
    queries.map write = queries'.map write
  negate : ∀ query query', write (.negate query) = write (.negate query') ↔
    write query = write query'
  inCollections : ∀ names names', write (.inCollections names) = write (.inCollections names') ↔
    names = names'
  atUris : ∀ uris uris', write (.atUris uris) = write (.atUris uris') ↔ uris = uris'

namespace Telling

variable {α : Type} {write : Query → α}

theorem eq_iff_of_kind_ne (telling : Telling write) {query query' : Query}
    (free : query.VerbatimFree) (free' : query'.VerbatimFree) (differ : query.kind ≠ query'.kind) :
    write query = write query' ↔ query.normal = query'.normal := by
  constructor
  · intro same
    exact absurd (telling.kind free free' same) differ
  · intro same
    rw [← kind_normal query, same, kind_normal] at differ
    exact absurd rfl differ

theorem map_eq_map_iff {queries queries' : List Query}
    (decides : ∀ query ∈ queries, ∀ query' ∈ queries',
      (write query = write query' ↔ query.normal = query'.normal)) :
    queries.map write = queries'.map write ↔ queries.map normal = queries'.map normal := by
  constructor
  · exact Traversal.map_eq_map_of_imp normal fun query mem query' mem' =>
      (decides query mem query' mem').mp
  · exact Traversal.map_eq_map_of_imp write fun query mem query' mem' =>
      (decides query mem query' mem').mpr

theorem equals_iff (telling : Telling write) (container container' : Container)
    (value value' : String) :
    write (Query.equals container value) = write (Query.equals container' value') ↔
      (Query.equals container value).normal = (Query.equals container' value').normal := by
  rw [telling.equals, normal_equals_eq_iff]

/-- An encoding that shows what a query is made of shows the query, up to the empty namespace. -/
theorem eq_iff (telling : Telling write) {query query' : Query} (free : query.VerbatimFree)
    (free' : query'.VerbatimFree) :
    write query = write query' ↔ query.normal = query'.normal := by
  induction query using Query.induction generalizing query' with
  | verbatim text encoding => exact absurd free (not_verbatimFree_verbatim text encoding)
  -- The kind does not tell the two value queries apart; their containers do.
  | propertyEquals property value =>
      cases query' with
      | propertyEquals property' value' =>
          exact telling.equals_iff (.property property) (.property property') value value'
      | elementEquals element' value' =>
          exact telling.equals_iff (.property property) (.element element') value value'
      | _ => exact telling.eq_iff_of_kind_ne free free' Kind.noConfusion
  | elementEquals element value =>
      cases query' with
      | propertyEquals property' value' =>
          exact telling.equals_iff (.element element) (.property property') value value'
      | elementEquals element' value' =>
          exact telling.equals_iff (.element element) (.element element') value value'
      | _ => exact telling.eq_iff_of_kind_ne free free' Kind.noConfusion
  | range container comparison bound rangeType =>
      cases query' with
      | range container' comparison' bound' rangeType' =>
          rw [telling.range, normal, normal, mapElements, mapElements, Query.range.injEq]
      | _ => exact telling.eq_iff_of_kind_ne free free' Kind.noConfusion
  | allOf queries ih =>
      cases query' with
      | allOf queries' =>
          rw [verbatimFree_allOf] at free free'
          rw [telling.allOf, normal_allOf, normal_allOf, Query.allOf.injEq]
          apply map_eq_map_iff
          intro query mem query' mem'
          exact ih query mem (free query mem) (free' query' mem')
      | _ => exact telling.eq_iff_of_kind_ne free free' Kind.noConfusion
  | anyOf queries ih =>
      cases query' with
      | anyOf queries' =>
          rw [verbatimFree_anyOf] at free free'
          rw [telling.anyOf, normal_anyOf, normal_anyOf, Query.anyOf.injEq]
          apply map_eq_map_iff
          intro query mem query' mem'
          exact ih query mem (free query mem) (free' query' mem')
      | _ => exact telling.eq_iff_of_kind_ne free free' Kind.noConfusion
  | negate query ih =>
      cases query' with
      | negate query' =>
          rw [verbatimFree_negate] at free free'
          rw [telling.negate, ih free free']
          exact (Query.negate.injEq _ _).to_iff.symm
      | _ => exact telling.eq_iff_of_kind_ne free free' Kind.noConfusion
  | inCollections names =>
      cases query' with
      | inCollections names' =>
          rw [telling.inCollections]
          exact (Query.inCollections.injEq _ _).to_iff.symm
      | _ => exact telling.eq_iff_of_kind_ne free free' Kind.noConfusion
  | atUris uris =>
      cases query' with
      | atUris uris' =>
          rw [telling.atUris]
          exact (Query.atUris.injEq _ _).to_iff.symm
      | _ => exact telling.eq_iff_of_kind_ne free free' Kind.noConfusion

end Telling

/-! ## JSON -/

/-- A query that is no text of the caller is an object that is named by its kind. -/
theorem json_eq_tagged {query : Query} (named : query.kind ≠ .verbatim) :
    ∃ body, query.json = .tagged query.kind.tag body := by
  cases query with
  | verbatim text encoding => exact absurd rfl named
  | _ => exact ⟨_, rfl⟩

theorem json_equals (container : Container) (value : String) :
    (equals container value).json = valueJson container value := by
  cases container <;> rfl

/-- The JSON form shows what a query is made of. -/
theorem telling_json : Telling json where
  kind := by
    intro query query' free free' same
    obtain ⟨body, tagged⟩ := json_eq_tagged (free.kind_ne (mem_nodes_self _))
    obtain ⟨body', tagged'⟩ := json_eq_tagged (free'.kind_ne (mem_nodes_self _))
    rw [tagged, tagged', Json.Draft.tagged_inj] at same
    exact Kind.tag_injective same.1
  equals := by
    intro container container' value value'
    rw [json_equals, json_equals, ← Container.json_eq_iff]
    simp [valueJson, Json.Draft.tagged_inj, Json.Draft.texts_inj]
  range := by
    intro container container' comparison comparison' bound bound' rangeType rangeType'
    rw [← Container.json_eq_iff, json, json, Json.Draft.tagged_inj]
    simp only [Json.Draft.object.injEq, List.cons.injEq, Prod.mk.injEq, Json.Draft.text.injEq,
      Json.Draft.texts_inj, Comparison.tokenOrUnset_inj, true_and, and_true]
    constructor
    · rintro ⟨sameType, sameContainer, sameBound, sameComparison⟩
      exact ⟨sameContainer, sameComparison, sameBound, sameType⟩
    · rintro ⟨sameContainer, sameComparison, sameBound, sameType⟩
      exact ⟨sameType, sameContainer, sameBound, sameComparison⟩
  allOf := by
    intro queries queries'
    simp [json, compositeJson, Json.Draft.tagged_inj, jsonAll_eq_map]
  anyOf := by
    intro queries queries'
    simp [json, compositeJson, Json.Draft.tagged_inj, jsonAll_eq_map]
  negate := by
    intro query query'
    simp [json, Json.Draft.tagged_inj]
  inCollections := by
    intro names names'
    simp [json, setJson, Json.Draft.tagged_inj, Json.Draft.texts_inj]
  atUris := by
    intro uris uris'
    simp [json, setJson, Json.Draft.tagged_inj, Json.Draft.texts_inj]

/-! ## XML -/

/-- A query that is no text of the caller is an element that is named by its kind. -/
theorem xml_eq_element {query : Query} (named : query.kind ≠ .verbatim) :
    ∃ attributes children, query.xml = .element query.kind.tag attributes children := by
  cases query with
  | verbatim text encoding => exact absurd rfl named
  | _ => exact ⟨_, _, rfl⟩

theorem xml_equals (container : Container) (value : String) :
    (equals container value).xml = valueXml container value := by
  cases container <;> rfl

theorem setXml_inj {kind : Kind} {uris uris' : List String} :
    setXml kind uris = setXml kind uris' ↔ uris = uris' := by
  have injective (uri uri' : String)
      (same : Xml.Draft.leaf "uri" uri = Xml.Draft.leaf "uri" uri') : uri = uri' :=
    (Xml.Draft.leaf_inj.mp same).2
  simp [setXml, List.map_inj_right injective]

/-- The XML form shows what a query is made of. -/
theorem telling_xml : Telling xml where
  kind := by
    intro query query' free free' same
    obtain ⟨attributes, children, element⟩ := xml_eq_element (free.kind_ne (mem_nodes_self _))
    obtain ⟨attributes', children', element'⟩ := xml_eq_element (free'.kind_ne (mem_nodes_self _))
    rw [element, element'] at same
    exact Kind.tag_injective (Xml.Draft.element.inj same).1
  equals := by
    intro container container' value value'
    rw [xml_equals, xml_equals, ← Container.xml_eq_iff]
    simp [valueXml, Xml.Draft.leaf_inj]
  range := by
    intro container container' comparison comparison' bound bound' rangeType rangeType'
    rw [← Container.xml_eq_iff, xml, xml]
    simp only [Xml.Draft.element.injEq, List.cons.injEq, Prod.mk.injEq, Xml.Draft.leaf_inj,
      Comparison.tokenOrUnset_inj, true_and, and_true]
    constructor
    · rintro ⟨sameType, sameContainer, sameBound, sameComparison⟩
      exact ⟨sameContainer, sameComparison, sameBound, sameType⟩
    · rintro ⟨sameContainer, sameComparison, sameBound, sameType⟩
      exact ⟨sameType, sameContainer, sameBound, sameComparison⟩
  allOf := by
    intro queries queries'
    simp [xml, xmlAll_eq_map]
  anyOf := by
    intro queries queries'
    simp [xml, xmlAll_eq_map]
  negate := by
    intro query query'
    simp [xml]
  inCollections := by
    intro names names'
    rw [xml, xml, setXml_inj]
  atUris := by
    intro uris uris'
    rw [xml, xml, setXml_inj]

end Query

end SearchRequest

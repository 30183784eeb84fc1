import SearchRequest.Definition
import SearchRequest.Proofs.Query.Unambiguous

/-!
# Fragments of requests

A definition lists its root in the default namespace, or nothing.  In either encoding the text
of that list shows where it ends and what is in it, and the fragment puts a fixed text on each
side of it.
-/

namespace SearchRequest.Definition

open Query (Wellformed)

/-- What is written is the root in the default namespace, if there is a root. -/
theorem eq_of_written {definition : Definition} {queries : List Query}
    (written : definition.written = .ok queries) :
    queries = (definition.root.map (Query.qualify definition.defaultSpace)).toList := by
  cases rooted : definition.root with
  | none =>
      simp only [Definition.written, rooted] at written
      cases written
      rfl
  | some root =>
      simp only [Definition.written, rooted] at written
      split at written
      · cases written
      · cases written
        rfl

theorem forall_mem_written {definition : Definition} {queries : List Query} {holds : Query → Prop}
    (written : definition.written = .ok queries)
    (each : ∀ root, definition.root = some root → holds (root.qualify definition.defaultSpace)) :
    ∀ query ∈ queries, holds query := by
  rw [eq_of_written written]
  intro query mem
  obtain ⟨root, rooted, rfl⟩ := Option.map_eq_some_iff.mp (Option.mem_toList.mp mem)
  exact each root rooted

def listed (queries : List Query) : Encoding → String
  | .json => (listing queries).render
  | .xml => (element queries).render

theorem renderMembers_query (queries : List Query) :
    Json.Draft.renderMembers "" [("query", listing queries)] =
      "\"query\":" ++ listed queries .json := by
  simp only [Json.Draft.renderMembers, String.empty_append, String.append_empty]
  rfl

/-- A fragment is the list of queries; in JSON it is a member with the comma behind it. -/
theorem fragment_eq_ok {definition : Definition} {fragment : Document}
    (made : definition.fragment = .ok fragment) :
    ∃ queries, definition.written = .ok queries ∧ fragment = .encoded definition.encoding
      (match definition.encoding with
      | .json => "\"query\":" ++ listed queries .json ++ ","
      | .xml => listed queries .xml) := by
  rw [Definition.fragment] at made
  cases written : definition.written with
  | error failure =>
      rw [written] at made
      cases made
  | ok queries =>
      rw [written] at made
      cases made
      refine ⟨queries, rfl, ?_⟩
      simp only [renderMembers_query]
      rfl

/-! ## Lists of queries told apart -/

variable {queries queries' : List Query}

theorem verbatimFree_listing (free : ∀ query ∈ queries, query.VerbatimFree) :
    (listing queries).VerbatimFree := by
  rw [Json.Draft.VerbatimFree, listing, Query.verbatims_listing, List.flatMap_eq_nil_iff]
  intro query mem
  rw [Query.verbatims_json, free query mem]

theorem wellformed_element (free : ∀ query ∈ queries, query.VerbatimFree) :
    Wellformed (element queries) := by
  have attributed : ∀ entry ∈ [("xmlns", searchSpace)], Xml.IsName entry.1 := by decide
  refine .branch ⟨by decide, attributed⟩ (by decide) ?_
  rw [Query.xmlAll_eq_map, List.forall_mem_map]
  intro query mem
  exact Query.wellformed_xml (free query mem)

theorem map_eq_map_iff {α : Type} {write : Query → α} (telling : Query.Telling write)
    (free : ∀ query ∈ queries, query.VerbatimFree)
    (free' : ∀ query ∈ queries', query.VerbatimFree) :
    queries.map write = queries'.map write ↔
      queries.map Query.normal = queries'.map Query.normal :=
  Query.Telling.map_eq_map_iff fun query mem query' mem' =>
    telling.eq_iff (free query mem) (free' query' mem')

theorem listing_eq_iff (free : ∀ query ∈ queries, query.VerbatimFree)
    (free' : ∀ query ∈ queries', query.VerbatimFree) :
    listing queries = listing queries' ↔
      queries.map Query.normal = queries'.map Query.normal := by
  rw [← map_eq_map_iff Query.telling_json free free', listing, listing, Json.Draft.tagged_inj,
    Json.Draft.array.injEq, Query.jsonAll_eq_map, Query.jsonAll_eq_map, eq_self, true_and]

theorem element_eq_iff (free : ∀ query ∈ queries, query.VerbatimFree)
    (free' : ∀ query ∈ queries', query.VerbatimFree) :
    element queries = element queries' ↔
      queries.map Query.normal = queries'.map Query.normal := by
  rw [← map_eq_map_iff Query.telling_xml free free', element, element, Xml.Draft.element.injEq,
    Query.xmlAll_eq_map, Query.xmlAll_eq_map, eq_self, eq_self, true_and, true_and]

/-- The text of a list can be cut off any longer text, and gives back the queries. -/
theorem listed_append_eq_iff (free : ∀ query ∈ queries, query.VerbatimFree)
    (free' : ∀ query ∈ queries', query.VerbatimFree) (encoding : Encoding)
    (rest rest' : String) :
    listed queries encoding ++ rest = listed queries' encoding ++ rest' ↔
      queries.map Query.normal = queries'.map Query.normal ∧ rest = rest' := by
  constructor
  · intro same
    have characters : (listed queries encoding).toList ++ rest.toList =
        (listed queries' encoding).toList ++ rest'.toList := by
      rw [← String.toList_append, same, String.toList_append]
    cases encoding with
    | json =>
        obtain ⟨sameList, sameRest⟩ :=
          (verbatimFree_listing free).render_append_inj (verbatimFree_listing free') characters
        exact ⟨(listing_eq_iff free free').mp sameList, String.toList_inj.mp sameRest⟩
    | xml =>
        obtain ⟨sameList, sameRest⟩ :=
          (wellformed_element free).render_append_inj (wellformed_element free') characters
        exact ⟨(element_eq_iff free free').mp sameList, String.toList_inj.mp sameRest⟩
  · rintro ⟨sameList, rfl⟩
    cases encoding with
    | json => rw [listed, listed, (listing_eq_iff free free').mpr sameList]
    | xml => rw [listed, listed, (element_eq_iff free free').mpr sameList]

end SearchRequest.Definition

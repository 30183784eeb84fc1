import SearchRequest.Proofs.Query.Shapes

/-!
# The leaves of queries that were read

No clause is lost, repeated or moved when a query is read: its leaves stand in the order in which
they are written.  Brackets around a single clause or a single text make no difference, and several
texts are read like several clauses with one text each.
-/

namespace SearchRequest

open Json (single withMember)
open Traversal (bind_eq_ok_iff)

namespace Clause

/-! ## Texts in a clause -/

section Bodies

variable {others : List (String × Json)} {key : String} {value : Json}

theorem container_withMember (noProperty : key ≠ "json-property") (noElement : key ≠ "element")
    (kind : Query.Kind) :
    container kind (withMember others key value) = container kind (.object others) := by
  simp only [container, Json.get?_withMember, if_neg noProperty, if_neg noElement]

theorem textAt?_withMember {member : String} (other : key ≠ member) :
    textAt? (withMember others key value) member = textAt? (.object others) member := by
  rw [textAt?, Json.get?_withMember, if_neg other, textAt?]

theorem comparison_withMember (noOperator : key ≠ "range-operator") :
    comparison (withMember others key value) = comparison (.object others) := by
  rw [comparison, textAt?_withMember noOperator, comparison]

theorem scalarsAt_withMember :
    scalarsAt (withMember others key value) key = scalars value := by
  rw [scalarsAt, Json.get?_withMember, if_pos rfl]

end Bodies

/-- A query for each text, where it is known how to make one. -/
def forEach (kind : Query.Kind) (member : String) (make : Except Error (String → Query))
    (list : Json) : Except Error Query :=
  make.bind fun make => (scalars list).bind fun texts =>
    alternatives kind member (texts.map make)

/-- The queries that a body without texts asks for. -/
def makeValue (body : Json) : Except Error (String → Query) :=
  (container .value body).map .equals

/-- The queries that a body without bounds asks for. -/
def makeRange (body : Json) : Except Error (String → Query) :=
  (container .range body).bind fun container => (comparison body).map fun comparison bound =>
    .range container (some comparison) bound ((textAt? body "type").getD defaultRangeType)

theorem value_withMember (others : List (String × Json)) (list : Json) :
    Clause.value (withMember others "text" list) =
      forEach .value "text" (makeValue (.object others)) list := by
  have sameContainer : container .value (withMember others "text" list) =
      container .value (.object others) := container_withMember (by decide) (by decide) .value
  rw [Clause.value, sameContainer, scalarsAt_withMember, forEach, makeValue]
  cases container .value (.object others) <;> rfl

theorem range_withMember (others : List (String × Json)) (list : Json) :
    Clause.range (withMember others "value" list) =
      forEach .range "value" (makeRange (.object others)) list := by
  have sameContainer : container .range (withMember others "value" list) =
      container .range (.object others) := container_withMember (by decide) (by decide) .range
  rw [Clause.range, sameContainer, comparison_withMember (by decide), scalarsAt_withMember,
    textAt?_withMember (by decide), forEach, makeRange]
  cases container .range (.object others) with
  | error failure => rfl
  | ok named => cases comparison (.object others) <;> rfl

theorem uris_withMember (kind : Query.Kind) (others : List (String × Json)) (list : Json) :
    uris kind (withMember others "uri" list) = scalars list := by
  have required : require kind.tag "uri" (withMember others "uri" list) = .ok list :=
    require_eq_ok_iff.mpr (by simp)
  rw [uris, required]
  rfl

/-- A text by itself is read like an array of that text. -/
theorem scalars_singleton {value : Json} (single : ∀ items, value ≠ .array items) :
    scalars (.array [value]) = scalars value := by
  rw [scalars_of_not_array single, scalars, List.mapM_cons]
  cases scalar value <;> rfl

theorem forEach_singleton (kind : Query.Kind) (member : String)
    (make : Except Error (String → Query)) (item : Json) :
    forEach kind member make (.array [item]) =
      make.bind fun make => (scalar item).map make := by
  rw [forEach, scalars, List.mapM_cons]
  cases make with
  | error failure => rfl
  | ok make => cases scalar item <;> rfl

theorem alternatives_several {queries : List Query} (several : 2 ≤ queries.length)
    (kind : Query.Kind) (member : String) :
    alternatives kind member queries = .ok (.anyOf queries) := by
  cases queries with
  | nil => simp at several
  | cons query rest =>
      cases rest with
      | nil => simp at several
      | cons next rest => rfl

/-- Several texts are read one by one, and what they make is the disjunction. -/
theorem forEach_several {items : List Json} (several : 2 ≤ items.length) (kind : Query.Kind)
    (member : String) (make : Except Error (String → Query)) :
    forEach kind member make (.array items) =
      (items.mapM fun item => forEach kind member make (.array [item])).map .anyOf := by
  have someItem : items ≠ [] := by
    rintro rfl
    cases several
  simp only [forEach_singleton]
  rw [Traversal.mapM_bind_of_ne_nil someItem, forEach]
  cases make with
  | error failure => rfl
  | ok make =>
      change (items.mapM scalar).bind _ = (items.mapM fun item => (scalar item).map make).map _
      rw [Traversal.mapM_map_result]
      cases read : items.mapM scalar with
      | error failure => rfl
      | ok texts =>
          have sameLength := (Traversal.mapM_eq_ok_iff.mp read).length_eq
          apply alternatives_several
          rwa [List.length_map, ← sameLength]

/-- A clause by itself is listed like an array of that clause. -/
theorem list_singleton (owner : String) (clause others : List (String × Json)) :
    list owner (withMember others "queries" (.object clause)) =
      list owner (withMember others "queries" (.array [.object clause])) := by
  have bare : Lists (withMember others "queries" (.object clause)) [.object clause] :=
    .single (by simp)
  have inBrackets : Lists (withMember others "queries" (.array [.object clause]))
      [.object clause] := .array (by simp)
  rw [list_eq_ok_iff.mpr bare, list_eq_ok_iff.mpr inBrackets]

end Clause

namespace Query

theorem ofJson_congr {json json' : Json} (same : Clause.ofJson json = Clause.ofJson json') :
    ofJson json = ofJson json' := by
  rw [ofJson_eq, ofJson_eq, same]

theorem ofJson_of_map_leaf {json : Json} {outcome : Except Error Query}
    (clause : Clause.ofJson json = outcome.map .leaf) : ofJson json = outcome := by
  rw [ofJson_eq, clause]
  cases outcome <;> rfl

theorem ofJson_value (body : Json) : ofJson (single "value-query" body) = Clause.value body :=
  ofJson_of_map_leaf rfl

theorem ofJson_range (body : Json) : ofJson (single "range-query" body) = Clause.range body :=
  ofJson_of_map_leaf rfl

theorem ofJson_collections (body : Json) :
    ofJson (single "collection-query" body) =
      (Clause.uris .collections body).map .inCollections := by
  apply ofJson_of_map_leaf
  change (Clause.uris .collections body).map _ = _
  cases Clause.uris .collections body <;> rfl

theorem ofJson_documents (body : Json) :
    ofJson (single "document-query" body) = (Clause.uris .documents body).map .atUris := by
  apply ofJson_of_map_leaf
  change (Clause.uris .documents body).map _ = _
  cases Clause.uris .documents body <;> rfl

/-! ## Brackets -/

/-- The keys of the queries that list texts, with the member in which they do. -/
def textLists : List (String × String) :=
  [("value-query", "text"), ("range-query", "value"), ("collection-query", "uri"),
    ("document-query", "uri")]

/-- A text may stand without brackets. -/
theorem ofJson_text_singleton {value : Json} (lone : ∀ items, value ≠ .array items)
    (others : List (String × Json)) :
    ∀ listing ∈ textLists,
      ofJson (single listing.1 (withMember others listing.2 value)) =
        ofJson (single listing.1 (withMember others listing.2 (.array [value]))) := by
  have sameTexts := Clause.scalars_singleton lone
  simp only [textLists, List.forall_mem_cons]
  refine ⟨?_, ?_, ?_, ?_, nofun⟩
  · rw [ofJson_value, ofJson_value, Clause.value_withMember, Clause.value_withMember,
      Clause.forEach, Clause.forEach, sameTexts]
  · rw [ofJson_range, ofJson_range, Clause.range_withMember, Clause.range_withMember,
      Clause.forEach, Clause.forEach, sameTexts]
  · rw [ofJson_collections, ofJson_collections, Clause.uris_withMember, Clause.uris_withMember,
      sameTexts]
  · rw [ofJson_documents, ofJson_documents, Clause.uris_withMember, Clause.uris_withMember,
      sameTexts]

/-- A clause may stand without brackets. -/
theorem ofJson_clause_singleton (clause others : List (String × Json)) :
    ∀ tag ∈ ["and-query", "or-query"],
      ofJson (single tag (withMember others "queries" (.object clause))) =
        ofJson (single tag (withMember others "queries" (.array [.object clause]))) := by
  simp only [List.forall_mem_cons]
  refine ⟨?_, ?_, nofun⟩
  · apply ofJson_congr
    have sameList := Clause.list_singleton "and-query" clause others
    exact congrArg (Except.map (Clause.joined .allOf)) sameList
  · apply ofJson_congr
    have sameList := Clause.list_singleton "or-query" clause others
    exact congrArg (Except.map (Clause.joined .anyOf)) sameList

/-! ## Documents -/

section Documents

variable (outer others : List (String × Json))

theorem clause_document (document : Json) :
    Clause.ofJson (withMember outer "query" document) =
      (Clause.list "query document" document).map (.joined .document) :=
  Clause.ofJson_of_document (by simp)

theorem ofJson_document_clause_singleton (clause : List (String × Json)) :
    ofJson (withMember outer "query" (withMember others "queries" (.object clause))) =
      ofJson (withMember outer "query"
        (withMember others "queries" (.array [.object clause]))) := by
  apply ofJson_congr
  rw [clause_document, clause_document, Clause.list_singleton]

/-- A document is read from the clauses that it lists, whatever else it holds. -/
theorem ofJson_document (parts : List Json) :
    ofJson (withMember outer "query" (withMember others "queries" (.array parts))) =
      (parts.mapM ofJson).bind (Join.assemble .document) := by
  have listed : Clause.list "query document" (withMember others "queries" (.array parts)) =
      .ok parts := Clause.list_eq_ok_iff.mpr (.array (by simp))
  rw [ofJson_eq, clause_document, listed]
  rfl

/-- Several clauses of a document are read one by one, and what they make is the conjunction. -/
theorem ofJson_document_several {parts : List Json} (several : 2 ≤ parts.length) :
    ofJson (withMember outer "query" (withMember others "queries" (.array parts))) =
      (parts.mapM ofJson).map .allOf := by
  rw [ofJson_document]
  cases read : parts.mapM ofJson with
  | error failure => rfl
  | ok queries =>
      rw [(Traversal.mapM_eq_ok_iff.mp read).length_eq] at several
      cases queries with
      | nil => simp at several
      | cons query rest =>
          cases rest with
          | nil => simp at several
          | cons next rest => rfl

end Documents

/-- A document of one clause is that clause. -/
theorem ofJson_document_singleton (json : Json) :
    ofJson (single "query" (single "queries" (.array [json]))) = ofJson json := by
  refine (ofJson_document [] [] [json]).trans ?_
  rw [List.mapM_cons]
  cases ofJson json <;> rfl

/-- Several texts are read like as many queries with a text each. -/
theorem ofJson_text_several {items : List Json} (several : 2 ≤ items.length)
    (others : List (String × Json)) :
    ∀ listing ∈ [("value-query", "text"), ("range-query", "value")],
      ofJson (single listing.1 (withMember others listing.2 (.array items))) =
        (items.mapM fun item =>
          ofJson (single listing.1 (withMember others listing.2 (.array [item])))).map .anyOf := by
  simp only [List.forall_mem_cons]
  refine ⟨?_, ?_, nofun⟩
  · simp only [ofJson_value, Clause.value_withMember]
    exact Clause.forEach_several several _ _ _
  · simp only [ofJson_range, Clause.range_withMember]
    exact Clause.forEach_several several _ _ _

/-! ## Leaves in their order -/

/-- The leaves that a written query names, in the order in which it is written. -/
inductive Yields : Json → List Query → Prop where
  | simple {json : Json} {leaves : List Query} (simple : Clause.Simple json leaves) :
      Yields json leaves
  | combined {json : Json} {parts : List Json} {leaves : List (List Query)}
      (combines : Clause.Combines json parts) (each : List.Forall₂ Yields parts leaves) :
      Yields json leaves.flatten

theorem yields_of_ofJson {json : Json} {query : Query} (read : ofJson json = .ok query) :
    Yields json query.leaves := by
  refine shape_induction (motive := fun json query => Yields json query.leaves)
    ?simple ?combined read
  case simple =>
    intro json query simple
    exact .simple simple
  case combined =>
    intro json parts queries query combines each leaves
    rw [leaves, List.flatMap_def]
    exact .combined combines (List.forall₂_map_right_iff.mpr each)

/-- Whatever leaves a written query names, they are the leaves of a query that is read from it. -/
theorem Yields.exists_ofJson {json : Json} {leaves : List Query} (yields : Yields json leaves) :
    ∃ query, ofJson json = .ok query ∧ query.leaves = leaves := by
  -- The clauses stand in a list, so the induction is on the clause and on that list together.
  refine yields.rec
    (motive_1 := fun json leaves _ => ∃ query, ofJson json = .ok query ∧ query.leaves = leaves)
    (motive_2 := fun parts leaves _ => ∃ queries, parts.mapM ofJson = .ok queries ∧
      queries.map Query.leaves = leaves)
    ?simple ?combined ?nil ?cons
  case simple =>
    intro json leaves simple
    obtain ⟨query, clause, own⟩ := Clause.ofJson_of_simple simple
    exact ⟨query, ofJson_of_leaf clause, own⟩
  case combined =>
    rintro json parts leaves combines _ ⟨queries, each, rfl⟩
    obtain ⟨query, read, own⟩ := ofJson_of_combines combines each
    exact ⟨query, read, own.trans List.flatMap_def⟩
  case nil => exact ⟨[], rfl, rfl⟩
  case cons =>
    rintro part leaves rest others _ _ ⟨query, ofPart, rfl⟩ ⟨queries, ofRest, rfl⟩
    refine ⟨query :: queries, ?_, rfl⟩
    rw [List.mapM_cons, ofPart, ofRest]
    rfl

/--
Reading neither loses nor repeats nor moves a clause.  A document of one clause is that clause, and
a clause or a text may stand without brackets.  Several texts of a value or range query are read
like a disjunction of queries with one text each, and several clauses of a document like their
conjunction.  So the leaves of a query that was read are those that are written, in that order.
-/
theorem ofJson_keeps_clauses :
    (∀ json, ofJson (single "query" (single "queries" (.array [json]))) = ofJson json) ∧
    (∀ clause others, ∀ tag ∈ ["and-query", "or-query"],
      ofJson (single tag (withMember others "queries" (.object clause))) =
        ofJson (single tag (withMember others "queries" (.array [.object clause])))) ∧
    (∀ clause outer others,
      ofJson (withMember outer "query" (withMember others "queries" (.object clause))) =
        ofJson (withMember outer "query"
          (withMember others "queries" (.array [.object clause])))) ∧
    (∀ value text others, Clause.Scalar value text → ∀ listing ∈ textLists,
      ofJson (single listing.1 (withMember others listing.2 value)) =
        ofJson (single listing.1 (withMember others listing.2 (.array [value])))) ∧
    (∀ items others, 2 ≤ items.length →
      ∀ listing ∈ [("value-query", "text"), ("range-query", "value")],
        ofJson (single listing.1 (withMember others listing.2 (.array items))) =
          (items.mapM fun item => ofJson (single listing.1
            (withMember others listing.2 (.array [item])))).map .anyOf) ∧
    (∀ parts outer others, 2 ≤ parts.length →
      ofJson (withMember outer "query" (withMember others "queries" (.array parts))) =
        (parts.mapM ofJson).map .allOf) ∧
    ∀ json query, ofJson json = .ok query →
      ∀ leaves, Yields json leaves ↔ leaves = query.leaves := by
  refine ⟨?_, ?_, ?_, ?_, ?_, ?_, ?_⟩
  · intro json
    exact ofJson_document_singleton json
  · intro clause others
    exact ofJson_clause_singleton clause others
  · intro clause outer others
    exact ofJson_document_clause_singleton outer others clause
  · intro value text others scalar
    refine ofJson_text_singleton ?_ others
    rintro items rfl
    cases scalar
  · intro items others several
    exact ofJson_text_several several others
  · intro parts outer others several
    exact ofJson_document_several outer others several
  · intro json query read leaves
    constructor
    · intro yields
      obtain ⟨own, readOwn, rfl⟩ := yields.exists_ofJson
      rw [read] at readOwn
      cases readOwn
      rfl
    · rintro rfl
      exact yields_of_ofJson read

def shelfJson (texts : Json) : Json :=
  single "value-query" (withMember [("json-property", .text "shelf")] "text" texts)

def shelvesJson : Json :=
  withMember [] "query" (withMember [] "queries" (.array
    [shelfJson (.array [.bool true, .text "attic"]),
      single "not-query" (single "near-query" .null)]))

def shelvesQuery : Query :=
  .allOf [.anyOf [.propertyEquals "shelf" "true", .propertyEquals "shelf" "attic"],
    .negate (.verbatim (single "near-query" .null).compact .json)]

/-- The document is read part by part and text by text, and nothing in it is lost. -/
theorem ofJson_keeps_clauses_shelvesJson :
    ofJson (shelfJson (.bool true)) = ofJson (shelfJson (.array [.bool true])) ∧
      ofJson shelvesJson = .ok shelvesQuery ∧
      ∀ leaves, Yields shelvesJson leaves ↔ leaves =
        [.propertyEquals "shelf" "true", .propertyEquals "shelf" "attic",
          .verbatim (single "near-query" .null).compact .json] := by
  obtain ⟨-, -, -, lone, severalTexts, severalParts, leavesOf⟩ := ofJson_keeps_clauses
  have brackets : ofJson (shelfJson (.bool true)) = ofJson (shelfJson (.array [.bool true])) :=
    lone _ _ [("json-property", .text "shelf")] .yes ("value-query", "text") (by decide)
  have ofYes : ofJson (shelfJson (.bool true)) = .ok (.propertyEquals "shelf" "true") :=
    ofJson_of_leaf rfl
  have ofAttic : ofJson (shelfJson (.array [.text "attic"])) =
      .ok (.propertyEquals "shelf" "attic") := ofJson_of_leaf rfl
  have ofShelves : ofJson (shelfJson (.array [.bool true, .text "attic"])) =
      .ok (.anyOf [.propertyEquals "shelf" "true", .propertyEquals "shelf" "attic"]) := by
    refine (severalTexts [.bool true, .text "attic"] [("json-property", .text "shelf")] (by decide)
      ("value-query", "text") (by decide)).trans ?_
    change (List.mapM (fun item => ofJson (shelfJson (.array [item]))) _).map _ = _
    simp only [List.mapM_cons, ← brackets, ofYes, ofAttic]
    rfl
  have ofNear : ofJson (single "near-query" .null) =
      .ok (.verbatim (single "near-query" .null).compact .json) := ofJson_of_leaf rfl
  have ofExcluded : ofJson (single "not-query" (single "near-query" .null)) =
      .ok (.negate (.verbatim (single "near-query" .null).compact .json)) :=
    ofJson_of_negated rfl ofNear
  have read : ofJson shelvesJson = .ok shelvesQuery := by
    refine (severalParts _ [] [] (by decide)).trans ?_
    simp only [List.mapM_cons, ofShelves, ofExcluded]
    rfl
  exact ⟨brackets, read, leavesOf shelvesJson shelvesQuery read⟩

end Query

end SearchRequest

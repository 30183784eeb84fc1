import SearchRequest.Query.Reading
import SearchRequest.Proofs.Json.Members
import SearchRequest.Proofs.Query.Elements
import SearchRequest.Proofs.Query.Meaning

/-!
# Queries are read from their meanings

The value that a query means is read back as that query, clause by clause.  Only an empty
namespace is lost on the way, because it is written like no namespace at all.
-/

namespace SearchRequest

open Json (single)

namespace Clause

/-! ## The clauses of written queries -/

theorem ofJson_single (kind : Query.Kind) (body : Json) :
    ofJson (single kind.tag body) = ofKind kind body (single kind.tag body) := by
  cases kind <;> rfl

theorem list_single (owner : String) (parts : List Json) :
    list owner (single "queries" (.array parts)) = .ok parts :=
  rfl

theorem scalars_texts (contents : List String) :
    scalars (.array (contents.map .text)) = .ok contents := by
  have each : ∀ content ∈ contents, (scalar ∘ Json.text) content = pure (id content) :=
    fun _ _ => rfl
  rw [scalars, List.mapM_map, Traversal.mapM_eq_pure_map each, List.map_id]
  rfl

theorem uris_single (kind : Query.Kind) (contents : List String) :
    uris kind (single "uri" (.array (contents.map .text))) = .ok contents :=
  scalars_texts contents

theorem container_of_member {kind : Query.Kind} {body : Json} {written : Container}
    (property : body.get? "json-property" = Json.lookup? "json-property" [written.meaning])
    (element : body.get? "element" = Json.lookup? "element" [written.meaning]) :
    container kind body = .ok (written.mapElement .normal) := by
  cases written with
  | property name =>
      rw [container, property]
      rfl
  | element name =>
      have noProperty : body.get? "json-property" = none := property
      have named : textAt? (Container.element name).meaning.2 "name" = some name.name := by
        rw [textAt?, Container.meaning, Json.get?_ofMembers]
        rfl
      have spaced : textAt? (Container.element name).meaning.2 "ns" = some name.writtenSpace := by
        rw [textAt?, Container.meaning, Json.get?_ofMembers]
        rfl
      have found : body.get? "element" = some (Container.element name).meaning.2 := element
      simp only [container, noProperty, found, named, spaced, Option.getD_some,
        QualifiedName.inSpace_writtenSpace]
      rfl

theorem value_valueBody (written : Container) (content : String) :
    value (Query.valueBody written content) =
      .ok (.equals (written.mapElement .normal) content) := by
  have named : container .value (Query.valueBody written content) =
      .ok (written.mapElement .normal) :=
    container_of_member (by rw [Query.valueBody, Json.get?_ofMembers]; cases written <;> rfl)
      (by rw [Query.valueBody, Json.get?_ofMembers]; cases written <;> rfl)
  have texts : scalarsAt (Query.valueBody written content) "text" = .ok [content] := by
    rw [scalarsAt, Query.valueBody, Json.get?_ofMembers]
    rfl
  rw [value, named, texts]
  rfl

theorem comparison_of_token {body : Json} {written : Comparison}
    (token : body.get? "range-operator" = some (.text written.token)) :
    comparison body = .ok written := by
  rw [comparison, textAt?, token]
  cases written <;> rfl

theorem range_rangeBody (written : Container) (comparison : Comparison)
    (bound rangeType : String) :
    range (Query.rangeBody written (some comparison) bound rangeType) =
      .ok (.range (written.mapElement .normal) (some comparison) bound rangeType) := by
  have named : container .range (Query.rangeBody written (some comparison) bound rangeType) =
      .ok (written.mapElement .normal) :=
    container_of_member (by rw [Query.rangeBody, Json.get?_ofMembers]; cases written <;> rfl)
      (by rw [Query.rangeBody, Json.get?_ofMembers]; cases written <;> rfl)
  have typed : textAt? (Query.rangeBody written (some comparison) bound rangeType) "type" =
      some rangeType := by
    rw [textAt?, Query.rangeBody, Json.get?_ofMembers]
    cases written <;> rfl
  have compared : Clause.comparison
      (Query.rangeBody written (some comparison) bound rangeType) = .ok comparison := by
    apply comparison_of_token
    rw [Query.rangeBody, Json.get?_ofMembers]
    rfl
  have bounds : scalarsAt (Query.rangeBody written (some comparison) bound rangeType) "value" =
      .ok [bound] := by
    rw [scalarsAt, Query.rangeBody, Json.get?_ofMembers]
    rfl
  rw [range, named, typed, compared, bounds]
  rfl

end Clause

namespace Query

/-- A query is read one clause at a time, and the queries below a clause in order. -/
theorem ofJson_eq (json : Json) :
    ofJson json =
      match Clause.ofJson json with
      | .error failure => .error failure
      | .ok (.leaf query) => .ok query
      | .ok (.negated body) => (ofJson body).map .negate
      | .ok (.joined join parts) => (parts.mapM ofJson).bind join.assemble := by
  rw [ofJson]
  split
  · next clause => simp only [clause]
  · next clause => simp only [clause]
  · next clause => simp only [clause]
  · next join parts clause =>
      have detached : parts.attach.mapM (fun part => ofJson part.val) = parts.mapM ofJson := by
        rw [List.mapM_subtype fun _ _ => rfl, List.unattach_attach]
      simp only [clause, detached]

theorem ofJson_of_leaf {json : Json} {query : Query}
    (clause : Clause.ofJson json = .ok (.leaf query)) : ofJson json = .ok query := by
  rw [ofJson_eq, clause]

theorem ofJson_of_negated {json body : Json} {query : Query}
    (clause : Clause.ofJson json = .ok (.negated body)) (inner : ofJson body = .ok query) :
    ofJson json = .ok (.negate query) := by
  rw [ofJson_eq, clause]
  simp only [inner]
  rfl

theorem ofJson_of_joined {json : Json} {join : Join} {parts : List Json} {queries : List Query}
    (clause : Clause.ofJson json = .ok (.joined join parts))
    (each : parts.mapM ofJson = .ok queries) : ofJson json = join.assemble queries := by
  rw [ofJson_eq, clause]
  simp only [each]
  rfl

theorem mapM_ofJson_meaning {queries : List Query} {change : QualifiedName → QualifiedName}
    (read : ∀ query ∈ queries, ofJson query.meaning = .ok (query.mapElements change)) :
    (meaningAll queries).mapM ofJson = .ok (mapElementsAll change queries) := by
  rw [meaningAll_eq_map, List.mapM_map, mapElementsAll_eq_map]
  exact Traversal.mapM_eq_pure_map read

/--
A query without faults is read from its meaning, provided that each of its verbatim texts is
read from what it means.
-/
theorem ofJson_meaning_of_nodes {query : Query} {encoding : Encoding}
    (verbatims : ∀ node ∈ query.nodes, node.kind = .verbatim → ofJson node.meaning = .ok node)
    (faultless : query.fault? encoding = none) : ofJson query.meaning = .ok query.normal := by
  induction query using Query.induction with
  | verbatim text encoding => exact verbatims _ (mem_nodes_self _) rfl
  | propertyEquals property value =>
      apply ofJson_of_leaf
      rw [meaning, Clause.ofJson_single, Clause.ofKind, Clause.value_valueBody]
      rfl
  | elementEquals element value =>
      apply ofJson_of_leaf
      rw [meaning, Clause.ofJson_single, Clause.ofKind, Clause.value_valueBody]
      rfl
  | range container comparison bound rangeType =>
      cases comparison with
      | none => cases faultless
      | some comparison =>
          apply ofJson_of_leaf
          rw [meaning, Clause.ofJson_single, Clause.ofKind, Clause.range_rangeBody]
          rfl
  | allOf queries ih =>
      have ofEach := (forall_nodes_allOf.mp verbatims).2
      have allFaultless := (fault?_allOf_eq_none_iff.mp faultless).2
      have clause : Clause.ofJson (Query.allOf queries).meaning =
          .ok (.joined .allOf (meaningAll queries)) := by
        rw [meaning, compositeMeaning, Clause.ofJson_single, Clause.ofKind, Clause.list_single]
        rfl
      rw [ofJson_of_joined clause (mapM_ofJson_meaning fun query mem =>
        ih query mem (ofEach query mem) (allFaultless query mem))]
      rfl
  | anyOf queries ih =>
      have ofEach := (forall_nodes_anyOf.mp verbatims).2
      have allFaultless := (fault?_anyOf_eq_none_iff.mp faultless).2
      have clause : Clause.ofJson (Query.anyOf queries).meaning =
          .ok (.joined .anyOf (meaningAll queries)) := by
        rw [meaning, compositeMeaning, Clause.ofJson_single, Clause.ofKind, Clause.list_single]
        rfl
      rw [ofJson_of_joined clause (mapM_ofJson_meaning fun query mem =>
        ih query mem (ofEach query mem) (allFaultless query mem))]
      rfl
  | negate query ih =>
      have ofInner := ih (forall_nodes_negate.mp verbatims).2 faultless
      exact ofJson_of_negated (Clause.ofJson_single .negate query.meaning) ofInner
  | inCollections names =>
      apply ofJson_of_leaf
      rw [meaning, setMeaning, Clause.ofJson_single, Clause.ofKind, Clause.uris_single]
      rfl
  | atUris uris =>
      apply ofJson_of_leaf
      rw [meaning, setMeaning, Clause.ofJson_single, Clause.ofKind, Clause.uris_single]
      rfl

/-- A query without faults and without verbatim texts is read from its meaning. -/
theorem ofJson_meaning {query : Query} {encoding : Encoding} (free : query.VerbatimFree)
    (faultless : query.fault? encoding = none) : ofJson query.meaning = .ok query.normal :=
  ofJson_meaning_of_nodes (fun _ mem verbatim => absurd verbatim (free.kind_ne mem)) faultless

end Query

end SearchRequest

import SearchRequest.Proofs.Comparison
import SearchRequest.Proofs.Query.Clauses

/-!
# The shapes of clauses

A clause is a query document or an object with one member, which names the kind of the query.
Either it stands for leaves by itself or it combines other clauses.  Much in it is optional, and
what is not asked for is passed over.
-/

namespace SearchRequest

open Json (single)
open Traversal (bind_eq_ok_iff)

namespace Clause

/-! ## The parts of a clause -/

inductive Scalar : Json → String → Prop where
  | text (content : String) : Scalar (.text content) content
  | number (value : Json.Number) : Scalar (.number value) value.written
  | yes : Scalar (.bool true) "true"
  | no : Scalar (.bool false) "false"

/-- A value that stands for several texts: an array of scalars, or a scalar by itself. -/
inductive ScalarList : Json → List String → Prop where
  | array {items : List Json} {texts : List String} (each : List.Forall₂ Scalar items texts) :
      ScalarList (.array items) texts
  | single {value : Json} {text : String} (scalar : Scalar value text) : ScalarList value [text]

/-- The container that a body names; an element is passed over where a property is named. -/
inductive NamesContainer (body : Json) : Container → Prop where
  | property {name : String} (found : body.get? "json-property" = some (.text name)) :
      NamesContainer body (.property name)
  | element {element : Json} {name : String} (noProperty : body.get? "json-property" = none)
      (found : body.get? "element" = some element)
      (named : element.get? "name" = some (.text name)) :
      NamesContainer body (.element (.inSpace name ((textAt? element "ns").getD "")))

/-- The comparison of a body: equality, unless there is a text that names one in any case. -/
inductive Compares (body : Json) : Comparison → Prop where
  | token {token : String} {comparison : Comparison}
      (found : body.get? "range-operator" = some (.text token))
      (upper : token.toUpper = comparison.token) : Compares body comparison
  | default (noToken : ∀ token, body.get? "range-operator" ≠ some (.text token)) :
      Compares body .eq

/-- The clauses of a body: an array of them, or an object by itself. -/
inductive Lists (body : Json) : List Json → Prop where
  | array {parts : List Json} (found : body.get? "queries" = some (.array parts)) :
      Lists body parts
  | single {members : List (String × Json)}
      (found : body.get? "queries" = some (.object members)) : Lists body [.object members]

theorem textAt?_eq_some_iff {body : Json} {member text : String} :
    textAt? body member = some text ↔ body.get? member = some (.text text) := by
  rw [textAt?, Option.bind_eq_some_iff]
  constructor
  · rintro ⟨value, found, isText⟩
    cases value <;> cases isText
    exact found
  · intro found
    exact ⟨_, found, rfl⟩

theorem scalar_eq_ok_iff {value : Json} {text : String} :
    scalar value = .ok text ↔ Scalar value text := by
  constructor
  · intro read
    cases value with
    | text content =>
        cases read
        exact .text _
    | number number =>
        cases read
        exact .number number
    | bool value =>
        cases value <;> cases read
        · exact .no
        · exact .yes
    | _ => cases read
  · intro scalar
    cases scalar <;> rfl

/-- Without brackets there is one text. -/
theorem scalars_of_not_array {value : Json} (single : ∀ items, value ≠ .array items) :
    scalars value = (scalar value).map ([·]) := by
  cases value with
  | array items => exact absurd rfl (single items)
  | _ => rfl

theorem scalars_eq_ok_iff {value : Json} {texts : List String} :
    scalars value = .ok texts ↔ ScalarList value texts := by
  have ofItems {items : List Json} :
      scalars (.array items) = .ok texts ↔ List.Forall₂ Scalar items texts := by
    rw [scalars, Traversal.mapM_eq_ok_iff]
    simp only [scalar_eq_ok_iff]
  constructor
  · intro read
    by_cases isArray : ∃ items, value = .array items
    · obtain ⟨items, rfl⟩ := isArray
      exact .array (ofItems.mp read)
    · rw [scalars_of_not_array (not_exists.mp isArray)] at read
      obtain ⟨text, ofValue, rfl⟩ := map_eq_ok_iff.mp read
      exact .single (scalar_eq_ok_iff.mp ofValue)
  · intro list
    cases list with
    | array each => exact ofItems.mpr each
    | single scalar => cases scalar <;> rfl

theorem container_eq_ok_iff {kind : Query.Kind} {body : Json} {named : Container} :
    container kind body = .ok named ↔ NamesContainer body named := by
  constructor
  · intro read
    unfold container at read
    split at read
    · next found =>
        cases read
        exact .property found
    · cases read
    · next noProperty found =>
        split at read
        · next own =>
            cases read
            exact .element noProperty found (textAt?_eq_some_iff.mp own)
        · cases read
    · cases read
  · intro names
    cases names with
    | property found => rw [container, found]
    | element noProperty found own =>
        have named := textAt?_eq_some_iff.mpr own
        simp only [container, noProperty, found, named]

theorem comparison_eq_ok_iff {body : Json} {named : Comparison} :
    comparison body = .ok named ↔ Compares body named := by
  constructor
  · intro read
    unfold comparison at read
    split at read
    · next token found =>
        split at read
        · next ofToken =>
            cases read
            exact .token (textAt?_eq_some_iff.mp found)
              (Comparison.ofToken?_eq_some_iff.mp ofToken)
        · cases read
    · next missing =>
        cases read
        refine .default fun token found => ?_
        rw [textAt?_eq_some_iff.mpr found] at missing
        cases missing
  · intro compares
    cases compares with
    | token found upper =>
        have ofToken := Comparison.ofToken?_eq_some_iff.mpr upper
        simp only [comparison, textAt?_eq_some_iff.mpr found, ofToken]
    | default noToken =>
        have missing : textAt? body "range-operator" = none :=
          Option.eq_none_iff_forall_ne_some.mpr fun token found =>
            noToken token (textAt?_eq_some_iff.mp found)
        rw [comparison, missing]

theorem require_eq_ok_iff {owner member : String} {body value : Json} :
    require owner member body = .ok value ↔ body.get? member = some value := by
  rw [require]
  cases body.get? member <;> simp [fail]

theorem list_eq_ok_iff {owner : String} {body : Json} {parts : List Json} :
    list owner body = .ok parts ↔ Lists body parts := by
  constructor
  · intro read
    obtain ⟨value, required, read⟩ := bind_eq_ok_iff.mp read
    have found := require_eq_ok_iff.mp required
    cases value with
    | array items =>
        cases read
        exact .array found
    | object members =>
        cases read
        exact .single found
    | _ => cases read
  · intro lists
    cases lists with
    | array found =>
        rw [list, require_eq_ok_iff.mpr found]
        rfl
    | single found =>
        rw [list, require_eq_ok_iff.mpr found]
        rfl

theorem uris_eq_ok_iff {kind : Query.Kind} {body : Json} {texts : List String} :
    uris kind body = .ok texts ↔
      ∃ list, body.get? "uri" = some list ∧ ScalarList list texts := by
  rw [← exists_congr fun list => and_congr require_eq_ok_iff scalars_eq_ok_iff]
  exact bind_eq_ok_iff

/-- Where there is a text, there is a member that holds it. -/
theorem scalarsAt_eq_ok_iff {body : Json} {member : String} {texts : List String}
    (someText : texts ≠ []) :
    scalarsAt body member = .ok texts ↔
      ∃ list, body.get? member = some list ∧ ScalarList list texts := by
  rw [scalarsAt]
  cases body.get? member with
  | some list => simp [scalars_eq_ok_iff]
  | none => simpa using someText.symm

theorem requireObject_of_get? {kind : Query.Kind} {body value : Json} {member : String}
    (found : body.get? member = some value) : requireObject kind body = .ok () := by
  cases body with
  | object members => rfl
  | _ => cases found

/-- One leaf for each text is what the alternatives are made of. -/
theorem leaves_of_alternatives {kind : Query.Kind} {member : String} {make : String → Query}
    (leaf : ∀ text, (make text).leaves = [make text]) {texts : List String} {query : Query}
    (made : alternatives kind member (texts.map make) = .ok query) :
    texts ≠ [] ∧ query.leaves = texts.map make := by
  have own : (texts.map make).flatMap Query.leaves = texts.map make := by
    rw [List.flatMap_map, List.flatMap_congr fun text _ => leaf text, List.map_eq_flatMap]
  unfold alternatives at made
  split at made
  · cases made
  · next single =>
      cases made
      rw [single, List.flatMap_singleton] at own
      rw [single]
      exact ⟨List.map_eq_nil_iff.not.mp (single ▸ List.cons_ne_nil _ _), own⟩
  · next some _ =>
      cases made
      exact ⟨List.map_eq_nil_iff.not.mp some, (Query.leaves_anyOf _).trans own⟩

theorem exists_alternatives (kind : Query.Kind) (member : String) (make : String → Query)
    {texts : List String} (someText : texts ≠ []) :
    ∃ query, alternatives kind member (texts.map make) = .ok query := by
  cases texts with
  | nil => exact absurd rfl someText
  | cons text rest => cases rest <;> exact ⟨_, rfl⟩

/-! ## Clauses -/

/-- A clause that combines no others, with the leaves that it stands for, in order. -/
inductive Simple : Json → List Query → Prop where
  | value {body list : Json} {container : Container} {texts : List String}
      (names : NamesContainer body container) (found : body.get? "text" = some list)
      (scalars : ScalarList list texts) (someText : texts ≠ []) :
      Simple (single "value-query" body) (texts.map (.equals container))
  | range {body list : Json} {container : Container} {comparison : Comparison}
      {bounds : List String} (names : NamesContainer body container)
      (compares : Compares body comparison) (found : body.get? "value" = some list)
      (scalars : ScalarList list bounds) (someBound : bounds ≠ []) :
      Simple (single "range-query" body) (bounds.map fun bound =>
        .range container (some comparison) bound ((textAt? body "type").getD defaultRangeType))
  | collections {body list : Json} {names : List String} (found : body.get? "uri" = some list)
      (scalars : ScalarList list names) :
      Simple (single "collection-query" body) [.inCollections names]
  | documents {body list : Json} {uris : List String} (found : body.get? "uri" = some list)
      (scalars : ScalarList list uris) : Simple (single "document-query" body) [.atUris uris]
  | unknown {key : String} (body : Json) (unreserved : key ∉ reservedKeys) :
      Simple (single key body) [.verbatim (single key body).compact .json]

/-- A clause that combines others, with the clauses that it combines, in order. -/
inductive Combines : Json → List Json → Prop where
  /-- The other members of a query document do not count, but it has to list a clause. -/
  | document {whole document : Json} {parts : List Json}
      (found : whole.get? "query" = some document) (lists : Lists document parts)
      (somePart : parts ≠ []) : Combines whole parts
  | allOf {body : Json} {parts : List Json} (lists : Lists body parts) :
      Combines (single "and-query" body) parts
  | anyOf {body : Json} {parts : List Json} (lists : Lists body parts) :
      Combines (single "or-query" body) parts
  | negate (body : Json) : Combines (single "not-query" body) [body]

theorem leaves_equals (container : Container) (text : String) :
    (Query.equals container text).leaves = [.equals container text] := by
  cases container <;> rfl

theorem simple_of_value {body : Json} {query : Query} (read : value body = .ok query) :
    Simple (single "value-query" body) query.leaves := by
  obtain ⟨_, _, read⟩ := bind_eq_ok_iff.mp read
  obtain ⟨own, names, read⟩ := bind_eq_ok_iff.mp read
  obtain ⟨texts, listed, made⟩ := bind_eq_ok_iff.mp read
  obtain ⟨someText, leaves⟩ := leaves_of_alternatives (leaves_equals own) made
  obtain ⟨list, found, scalars⟩ := (scalarsAt_eq_ok_iff someText).mp listed
  rw [leaves]
  exact .value (container_eq_ok_iff.mp names) found scalars someText

theorem simple_of_range {body : Json} {query : Query} (read : range body = .ok query) :
    Simple (single "range-query" body) query.leaves := by
  obtain ⟨_, _, read⟩ := bind_eq_ok_iff.mp read
  obtain ⟨own, names, read⟩ := bind_eq_ok_iff.mp read
  obtain ⟨comparison, compares, read⟩ := bind_eq_ok_iff.mp read
  obtain ⟨bounds, listed, made⟩ := bind_eq_ok_iff.mp read
  obtain ⟨someBound, leaves⟩ := leaves_of_alternatives (fun _ => rfl) made
  obtain ⟨list, found, scalars⟩ := (scalarsAt_eq_ok_iff someBound).mp listed
  rw [leaves]
  exact .range (container_eq_ok_iff.mp names) (comparison_eq_ok_iff.mp compares) found scalars
    someBound

def Describes (json : Json) : Clause → Prop
  | .leaf query => Simple json query.leaves
  | .negated body => Combines json [body]
  | .joined join parts => (join = .document → parts ≠ []) → Combines json parts

theorem describes_of_ofKind {tag : String} {body : Json} {clause : Clause}
    (noDocument : tag ≠ "query")
    (read : ofKind (.ofTag tag) body (single tag body) = .ok clause) :
    Describes (single tag body) clause := by
  cases kind : Query.Kind.ofTag tag with
  | allOf =>
      obtain rfl := Query.Kind.tag_of_ofTag kind nofun
      obtain ⟨parts, listed, rfl⟩ := map_eq_ok_iff.mp read
      exact fun _ => .allOf (list_eq_ok_iff.mp listed)
  | anyOf =>
      obtain rfl := Query.Kind.tag_of_ofTag kind nofun
      obtain ⟨parts, listed, rfl⟩ := map_eq_ok_iff.mp read
      exact fun _ => .anyOf (list_eq_ok_iff.mp listed)
  | negate =>
      obtain rfl := Query.Kind.tag_of_ofTag kind nofun
      cases read
      exact .negate body
  | value =>
      obtain rfl := Query.Kind.tag_of_ofTag kind nofun
      obtain ⟨query, made, rfl⟩ := map_eq_ok_iff.mp read
      exact simple_of_value made
  | range =>
      obtain rfl := Query.Kind.tag_of_ofTag kind nofun
      obtain ⟨query, made, rfl⟩ := map_eq_ok_iff.mp read
      exact simple_of_range made
  | collections =>
      obtain rfl := Query.Kind.tag_of_ofTag kind nofun
      obtain ⟨names, listed, rfl⟩ := map_eq_ok_iff.mp read
      obtain ⟨list, found, scalars⟩ := uris_eq_ok_iff.mp listed
      exact .collections found scalars
  | documents =>
      obtain rfl := Query.Kind.tag_of_ofTag kind nofun
      obtain ⟨uris, listed, rfl⟩ := map_eq_ok_iff.mp read
      obtain ⟨list, found, scalars⟩ := uris_eq_ok_iff.mp listed
      exact .documents found scalars
  | verbatim =>
      rw [kind] at read
      cases read
      exact .unknown body (notMem_reservedKeys_iff.mpr ⟨noDocument, kind⟩)

/-- A clause says what the shape of its value is. -/
theorem describes_of_ofJson {json : Json} {clause : Clause} (read : ofJson json = .ok clause) :
    Describes json clause := by
  unfold ofJson at read
  split at read
  · split at read
    · next document found =>
        obtain ⟨parts, listed, rfl⟩ := map_eq_ok_iff.mp read
        exact fun somePart => .document found (list_eq_ok_iff.mp listed) (somePart rfl)
    · next noQuery =>
        split at read
        · next tag body =>
            have noDocument : tag ≠ "query" := by
              rintro rfl
              cases noQuery
            exact describes_of_ofKind noDocument read
        · cases read
  · cases read

theorem ofJson_of_simple {json : Json} {leaves : List Query} (simple : Simple json leaves) :
    ∃ query, ofJson json = .ok (.leaf query) ∧ query.leaves = leaves := by
  cases simple with
  | @value body list container texts names found scalars someText =>
      have listed := (scalarsAt_eq_ok_iff someText).mpr ⟨list, found, scalars⟩
      obtain ⟨query, made⟩ := exists_alternatives .value "text" (.equals container) someText
      have read : value body = .ok query := by
        rw [value, requireObject_of_get? found, container_eq_ok_iff.mpr names, listed]
        exact made
      refine ⟨query, ?_, (leaves_of_alternatives (leaves_equals container) made).2⟩
      change ofJson (single Query.Kind.value.tag body) = _
      rw [ofJson_single, ofKind, read]
      rfl
  | @range body list container comparison bounds names compares found scalars someBound =>
      have listed := (scalarsAt_eq_ok_iff someBound).mpr ⟨list, found, scalars⟩
      let make (bound : String) : Query :=
        .range container (some comparison) bound ((textAt? body "type").getD defaultRangeType)
      obtain ⟨query, made⟩ := exists_alternatives .range "value" make someBound
      have read : range body = .ok query := by
        rw [range, requireObject_of_get? found, container_eq_ok_iff.mpr names,
          comparison_eq_ok_iff.mpr compares, listed]
        exact made
      refine ⟨query, ?_, (leaves_of_alternatives (fun _ => rfl) made).2⟩
      change ofJson (single Query.Kind.range.tag body) = _
      rw [ofJson_single, ofKind, read]
      rfl
  | @collections body list names found scalars =>
      refine ⟨.inCollections names, ?_, rfl⟩
      change ofJson (single Query.Kind.collections.tag body) = _
      rw [ofJson_single, ofKind, uris_eq_ok_iff.mpr ⟨list, found, scalars⟩]
      rfl
  | @documents body list uris found scalars =>
      refine ⟨.atUris uris, ?_, rfl⟩
      change ofJson (single Query.Kind.documents.tag body) = _
      rw [ofJson_single, ofKind, uris_eq_ok_iff.mpr ⟨list, found, scalars⟩]
      rfl
  | @unknown key body unreserved =>
      obtain ⟨noDocument, noKind⟩ := notMem_reservedKeys_iff.mp unreserved
      refine ⟨.verbatim (single key body).compact .json, ?_, rfl⟩
      rw [ofJson_single_of_ne noDocument, noKind, ofKind]

theorem ofJson_of_document {whole document : Json} (found : whole.get? "query" = some document) :
    ofJson whole = (list "query document" document).map (.joined .document) := by
  cases whole with
  | object members => simp only [ofJson, found]
  | _ => cases found

theorem ofJson_of_combines {json : Json} {parts : List Json} (combines : Combines json parts) :
    (∃ body, parts = [body] ∧ ofJson json = .ok (.negated body)) ∨
      ∃ join, ofJson json = .ok (.joined join parts) ∧ (join = .document → parts ≠ []) := by
  cases combines with
  | document found lists somePart =>
      refine .inr ⟨.document, ?_, fun _ => somePart⟩
      rw [ofJson_of_document found, list_eq_ok_iff.mpr lists]
      rfl
  | @allOf body parts lists =>
      refine .inr ⟨.allOf, ?_, fun document => by cases document⟩
      change ofJson (single Query.Kind.allOf.tag body) = _
      rw [ofJson_single, ofKind, list_eq_ok_iff.mpr lists]
      rfl
  | @anyOf body parts lists =>
      refine .inr ⟨.anyOf, ?_, fun document => by cases document⟩
      change ofJson (single Query.Kind.anyOf.tag body) = _
      rw [ofJson_single, ofKind, list_eq_ok_iff.mpr lists]
      rfl
  | negate body =>
      refine .inl ⟨body, rfl, ?_⟩
      exact ofJson_single .negate body

end Clause

namespace Query

/-! ## Queries -/

theorem leaves_of_assemble {join : Join} {queries : List Query} {query : Query}
    (assembled : join.assemble queries = .ok query) :
    (join = .document → queries ≠ []) ∧ query.leaves = queries.flatMap leaves := by
  unfold Join.assemble at assembled
  split at assembled
  · cases assembled
  · cases assembled
    exact ⟨fun _ => List.cons_ne_nil _ _, (List.flatMap_singleton _ _).symm⟩
  · next some _ =>
      cases assembled
      exact ⟨fun _ => some, leaves_allOf _⟩
  · cases assembled
    exact ⟨nofun, leaves_allOf _⟩
  · cases assembled
    exact ⟨nofun, leaves_anyOf _⟩

theorem exists_assemble {join : Join} {queries : List Query}
    (someQuery : join = .document → queries ≠ []) :
    ∃ query, join.assemble queries = .ok query := by
  cases join with
  | document =>
      cases queries with
      | nil => exact absurd rfl (someQuery rfl)
      | cons query rest => cases rest <;> exact ⟨_, rfl⟩
  | allOf => exact ⟨_, rfl⟩
  | anyOf => exact ⟨_, rfl⟩

/-- Induction over the shape of a written query, which is made of its leaves. -/
theorem shape_induction {motive : Json → Query → Prop}
    (simple : ∀ json query, Clause.Simple json query.leaves → motive json query)
    (combined : ∀ json parts queries query, Clause.Combines json parts →
      List.Forall₂ motive parts queries → query.leaves = queries.flatMap leaves →
        motive json query)
    {json : Json} {query : Query} (read : ofJson json = .ok query) : motive json query := by
  refine ofJson_induction ?leaf ?negated ?joined read
  case leaf =>
    intro json query clause
    exact simple json query (Clause.describes_of_ofJson clause)
  case negated =>
    intro json body query clause ih
    exact combined json [body] [query] _ (Clause.describes_of_ofJson clause) (.cons ih .nil)
      (by simp)
  case joined =>
    intro json join parts queries query clause each assembled
    obtain ⟨someQuery, leaves⟩ := leaves_of_assemble assembled
    have somePart : join = .document → parts ≠ [] := by
      rintro rfl rfl
      cases each
      exact someQuery rfl rfl
    exact combined json parts queries query (Clause.describes_of_ofJson clause somePart) each
      leaves

/-- A clause that combines others has their leaves, one clause after the other. -/
theorem ofJson_of_combines {json : Json} {parts : List Json} {queries : List Query}
    (combines : Clause.Combines json parts) (each : parts.mapM ofJson = .ok queries) :
    ∃ query, ofJson json = .ok query ∧ query.leaves = queries.flatMap leaves := by
  rcases Clause.ofJson_of_combines combines with ⟨body, rfl, clause⟩ | ⟨join, clause, somePart⟩
  · rw [Traversal.mapM_eq_ok_iff] at each
    cases each with
    | @cons _ query _ _ ofBody none =>
        cases none
        exact ⟨.negate query, ofJson_of_negated clause ofBody, by simp⟩
  · have sameLength := (Traversal.mapM_eq_ok_iff.mp each).length_eq
    have someQuery : join = .document → queries ≠ [] := by
      rintro rfl rfl
      exact somePart rfl (List.length_eq_zero_iff.mp sameLength)
    obtain ⟨query, assembled⟩ := exists_assemble someQuery
    refine ⟨query, ?_, (leaves_of_assemble assembled).2⟩
    rw [ofJson_of_joined clause each, assembled]

end Query

end SearchRequest

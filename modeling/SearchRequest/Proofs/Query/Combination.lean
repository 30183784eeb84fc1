import Mathlib.Data.List.Forall2
import SearchRequest.Proofs.Query.Faults
import SearchRequest.Query.Combine

/-!
# Texts of combined queries

A query that combines others is written around their texts.  What stands in front of them, between
them and behind them is decided by the encoding and the kind of the combination, whatever the parts
are, and the combination can be sent exactly if each of its parts can be sent alone.
-/

namespace SearchRequest

/-- What is written around the texts of several parts. -/
structure Envelope where
  opening : String
  /-- What stands between two texts. -/
  separator : String
  closing : String

namespace Envelope

def around (envelope : Envelope) (texts : List String) : String :=
  envelope.opening ++ envelope.separator.intercalate texts ++ envelope.closing

def ofList (kind : Query.Kind) : Encoding → Envelope
  | .json => ⟨"\x7b\"" ++ kind.tag ++ "\":\x7b\"queries\":[", ",", "]\x7d\x7d"⟩
  | .xml => ⟨"<" ++ kind.tag ++ ">", "", "</" ++ kind.tag ++ ">"⟩

def ofNegation : Encoding → Envelope
  | .json => ⟨"\x7b\"not-query\":", ",", "\x7d"⟩
  | .xml => ⟨"<not-query>", "", "</not-query>"⟩

end Envelope

/-! ## Drafts -/

namespace Json.Draft

theorem renderItems_eq_intercalate (items : List Draft) :
    renderItems "" items = ",".intercalate (items.map render) := by
  induction items with
  | nil => rfl
  | cons item rest ih =>
      cases rest with
      | nil => simp [renderItems]
      | cons next others =>
          have led : renderItems "," (next :: others) = "," ++ renderItems "" (next :: others) := by
            simp [renderItems, String.append_assoc]
          rw [renderItems, led, ih]
          simp [String.append_assoc]

end Json.Draft

namespace Xml.Draft

theorem renderAll_eq_intercalate (drafts : List Draft) :
    renderAll drafts = "".intercalate (drafts.map render) := by
  induction drafts with
  | nil => rfl
  | cons draft rest ih =>
      rw [renderAll, ih]
      cases rest <;> simp

end Xml.Draft

namespace Query

variable {encoding : Encoding}

/-- The name of a kind is written in quotes as it stands. -/
theorem quote_tag (kind : Kind) : Json.quote kind.tag = "\"" ++ kind.tag ++ "\"" := by
  cases kind <;> rfl

theorem render_compositeJson (kind : Kind) (queries : List Query) :
    (compositeJson kind (jsonAll queries)).render =
      (Envelope.ofList kind .json).around (queries.map (render .json)) := by
  have listed : Json.quote "queries" = "\"queries\"" := rfl
  have texts : queries.map (Json.Draft.render ∘ json) = queries.map (render .json) := rfl
  apply String.toList_inj.mp
  simp only [compositeJson, Json.Draft.tagged, Json.Draft.render, Json.Draft.renderMembers,
    Json.Draft.renderItems_eq_intercalate, jsonAll_eq_map, List.map_map, quote_tag, listed, texts,
    Envelope.around, Envelope.ofList]
  simp

theorem render_element (kind : Kind) (queries : List Query) :
    (Xml.Draft.element kind.tag [] (xmlAll queries)).render =
      (Envelope.ofList kind .xml).around (queries.map (render .xml)) := by
  have texts : queries.map (Xml.Draft.render ∘ xml) = queries.map (render .xml) := rfl
  simp [Xml.Draft.render, Xml.Draft.renderAttributes, Xml.Draft.renderAll_eq_intercalate,
    xmlAll_eq_map, texts, Envelope.around, Envelope.ofList, String.append_assoc]

theorem render_allOf (encoding : Encoding) (queries : List Query) :
    (Query.allOf queries).render encoding =
      (Envelope.ofList .allOf encoding).around (queries.map (render encoding)) := by
  cases encoding with
  | json => exact render_compositeJson .allOf queries
  | xml => exact render_element .allOf queries

theorem render_anyOf (encoding : Encoding) (queries : List Query) :
    (Query.anyOf queries).render encoding =
      (Envelope.ofList .anyOf encoding).around (queries.map (render encoding)) := by
  cases encoding with
  | json => exact render_compositeJson .anyOf queries
  | xml => exact render_element .anyOf queries

theorem render_negate (encoding : Encoding) (query : Query) :
    (Query.negate query).render encoding =
      (Envelope.ofNegation encoding).around [query.render encoding] := by
  cases encoding with
  | json =>
      have tagged : Json.quote Kind.negate.tag = "\"not-query\"" := rfl
      apply String.toList_inj.mp
      simp [render, json, Json.Draft.tagged, Json.Draft.render, Json.Draft.renderMembers, tagged,
        Envelope.around, Envelope.ofNegation]
  | xml =>
      simp [render, xml, Xml.Draft.render, Xml.Draft.renderAttributes, Xml.Draft.renderAll,
        Kind.tag, Envelope.around, Envelope.ofNegation, String.append_assoc]

/-! ## Verdicts -/

/-- Parts have texts exactly if none of them has a fault, and then the rendered ones. -/
theorem forall₂_encode_iff {parts : List Query} {texts : List String} :
    List.Forall₂ (fun part text => part.encode encoding = .ok text) parts texts ↔
      (∀ part ∈ parts, part.fault? encoding = none) ∧ texts = parts.map (render encoding) := by
  simp only [encode_eq_ok_iff, List.forall₂_and_left]
  rw [eq_comm, ← List.forall₂_eq_eq_eq, List.forall₂_map_left_iff]
  simp only [eq_comm]

/--
The query is written in an envelope around the texts of its parts if each of them has one.
Otherwise it fails as the leftmost part does that has none.
-/
structure WrittenAround (encoding : Encoding) (envelope : Envelope) (parts : List Query)
    (query : Query) : Prop where
  sent : (∃ text, query.encode encoding = .ok text) ↔
    ∀ part ∈ parts, ∃ text, part.encode encoding = .ok text
  written : ∀ text, query.encode encoding = .ok text ↔ ∃ texts,
    List.Forall₂ (fun part text => part.encode encoding = .ok text) parts texts ∧
      text = envelope.around texts
  refused : ∀ error, query.encode encoding = .error error ↔ ∃ before part after,
    parts = before ++ part :: after ∧ part.encode encoding = .error error ∧
      ∀ earlier ∈ before, ∃ text, earlier.encode encoding = .ok text

/-- It is enough that the faults and the rendered text are those of the parts. -/
theorem writtenAround_of_parts {envelope : Envelope} {parts : List Query} {query : Query}
    (faults : query.fault? encoding = firstFault? encoding parts)
    (rendered : query.render encoding = envelope.around (parts.map (render encoding))) :
    WrittenAround encoding envelope parts query where
  sent := by
    simp only [exists_encode_iff]
    rw [faults, firstFault?_eq_none_iff]
  written text := by
    rw [encode_eq_ok_iff, faults, rendered, firstFault?_eq_none_iff]
    simp only [forall₂_encode_iff, and_assoc, exists_and_left, exists_eq_left]
  refused error := by
    rw [encode_eq_error_iff, faults, firstFault?_eq_findSome?, List.findSome?_eq_some_iff]
    simp only [encode_eq_error_iff, exists_encode_iff]

theorem writtenAround_allOf {queries : List Query} (someQuery : queries ≠ []) :
    WrittenAround encoding (.ofList .allOf encoding) queries (.allOf queries) := by
  refine writtenAround_of_parts ?_ (render_allOf encoding queries)
  rw [fault?, if_neg (by simpa using someQuery)]

theorem writtenAround_anyOf {queries : List Query} (someQuery : queries ≠ []) :
    WrittenAround encoding (.ofList .anyOf encoding) queries (.anyOf queries) := by
  refine writtenAround_of_parts ?_ (render_anyOf encoding queries)
  rw [fault?, if_neg (by simpa using someQuery)]

theorem encode_negate (encoding : Encoding) (query : Query) :
    (Query.negate query).encode encoding =
      (query.encode encoding).map fun text => (Envelope.ofNegation encoding).around [text] := by
  rw [encode, encode, fault?, render_negate]
  cases query.fault? encoding <;> rfl

/--
Queries can be combined by conjunction and by disjunction unless there is none of them.  The
combination is written as the texts of the queries in their order inside the envelope of its kind,
and it fails as the leftmost query does that cannot be written.  A negated query is written around
the text of the query, and it fails as the query does.
-/
theorem encode_of_combined (encoding : Encoding) :
    (∀ queries, queries ≠ [] →
      (∃ query, conjunction queries = .ok query ∧
        WrittenAround encoding (.ofList .allOf encoding) queries query) ∧
      ∃ query, disjunction queries = .ok query ∧
        WrittenAround encoding (.ofList .anyOf encoding) queries query) ∧
    conjunction [] = .error (.emptyComposite .allOf) ∧
    disjunction [] = .error (.emptyComposite .anyOf) ∧
    ∀ query, ∃ negated, negation (some query) = .ok negated ∧
      negated.encode encoding =
        (query.encode encoding).map fun text => (Envelope.ofNegation encoding).around [text] := by
  refine ⟨?_, rfl, rfl, ?_⟩
  · intro queries someQuery
    constructor
    · exact ⟨_, conjunction_eq_ok_iff.mpr ⟨someQuery, rfl⟩, writtenAround_allOf someQuery⟩
    · exact ⟨_, disjunction_eq_ok_iff.mpr ⟨someQuery, rfl⟩, writtenAround_anyOf someQuery⟩
  · intro query
    exact ⟨_, negation_eq_ok_iff.mpr ⟨query, rfl, rfl⟩, encode_negate encoding query⟩

def shelfQueries : List Query :=
  [.propertyEquals "title" "a, \"b\"", .negate (.atUris ["/a", "/b"])]

def marredQueries : List Query :=
  [.inCollections [], .verbatim "<near/>" .xml, .anyOf []]

/-- The texts of the queries stand in the combination, or the first fault takes their place. -/
theorem encode_of_combined_shelfQueries :
    (∃ query, conjunction shelfQueries = .ok query ∧ query.encode .json = .ok
      ("\x7b\"and-query\":\x7b\"queries\":[" ++
        ("\x7b\"value-query\":\x7b\"type\":\"string\",\"json-property\":\"title\"," ++
          "\"text\":[\"a, \\\"b\\\"\"]\x7d\x7d") ++ "," ++
        "\x7b\"not-query\":\x7b\"document-query\":\x7b\"uri\":[\"/a\",\"/b\"]\x7d\x7d\x7d" ++
        "]\x7d\x7d")) ∧
    (∃ query, disjunction marredQueries = .ok query ∧
      query.encode .json = .error (.wrongEncoding .xml .json)) ∧
    (∃ query, disjunction marredQueries = .ok query ∧
      query.encode .xml = .error (.emptyComposite .anyOf)) ∧
    ∃ negated, negation (some (.inCollections ["a&b"])) = .ok negated ∧ negated.encode .xml = .ok
      "<not-query><collection-query><uri>a&amp;b</uri></collection-query></not-query>" := by
  obtain ⟨ofJson, -, -, -⟩ := encode_of_combined .json
  obtain ⟨ofXml, -, -, negated⟩ := encode_of_combined .xml
  obtain ⟨⟨both, madeBoth, aroundBoth⟩, -⟩ := ofJson shelfQueries (List.cons_ne_nil _ _)
  obtain ⟨-, any, madeAny, aroundAny⟩ := ofJson marredQueries (List.cons_ne_nil _ _)
  obtain ⟨-, anyXml, madeAnyXml, aroundAnyXml⟩ := ofXml marredQueries (List.cons_ne_nil _ _)
  obtain ⟨not, madeNot, aroundNot⟩ := negated (.inCollections ["a&b"])
  refine ⟨⟨both, madeBoth, ?_⟩, ⟨any, madeAny, ?_⟩, ⟨anyXml, madeAnyXml, ?_⟩, not, madeNot, ?_⟩
  · exact (aroundBoth.written _).mpr ⟨_, .cons rfl (.cons rfl .nil), rfl⟩
  · refine (aroundAny.refused _).mpr ⟨[.inCollections []], _, [.anyOf []], rfl, rfl, ?_⟩
    exact List.forall_mem_singleton.mpr ⟨_, rfl⟩
  · refine (aroundAnyXml.refused _).mpr
      ⟨[.inCollections [], .verbatim "<near/>" .xml], _, [], rfl, rfl, ?_⟩
    exact List.forall_mem_cons.mpr ⟨⟨_, rfl⟩, List.forall_mem_singleton.mpr ⟨_, rfl⟩⟩
  · rw [aroundNot]
    rfl

end Query

end SearchRequest

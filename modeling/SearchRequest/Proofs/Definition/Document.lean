import SearchRequest.Definition
import SearchRequest.Proofs.Query.RoundTrip

/-!
# Documents read back

The document of a definition puts two brackets more around its root than the text of the
root has, and a list around it that holds one query or none.
-/

namespace SearchRequest.Definition

open Json (Draft single bracketDepth)

section Listing

variable {queries : List Query}

theorem legible_listing (legible : ∀ query ∈ queries, query.Legible) :
    (listing queries).Legible := by
  intro text mem
  rw [listing, Query.verbatims_listing] at mem
  obtain ⟨query, queryMem, textMem⟩ := List.mem_flatMap.mp mem
  exact (legible query queryMem).json text textMem

theorem depth_listing (legible : ∀ query ∈ queries, query.Legible) :
    (listing queries).spelling.depth = Query.depthAll queries + 2 :=
  Query.depth_listing fun query mem => Query.depth_json (legible query mem)

theorem value?_listing (legible : ∀ query ∈ queries, query.Legible) :
    (listing queries).spelling.value? =
      some (single "queries" (.array (Query.meaningAll queries))) :=
  Query.value?_listing fun query mem => Query.value?_json (legible query mem)

/-- The JSON document of several queries. -/
theorem ofText?_listing (legible : ∀ query ∈ queries, query.Legible) :
    Json.ofText? (Draft.tagged "query" (listing queries)).render =
      if Query.depthAll queries + 3 ≤ 127 then
        some (single "query" (single "queries" (.array (Query.meaningAll queries))))
      else none := by
  have readable : (Draft.tagged "query" (listing queries)).Legible := by
    rw [Draft.Legible, Draft.verbatims_tagged]
    exact legible_listing legible
  have spelled := readable.ofText?_render
  have depth : bracketDepth (Draft.tagged "query" (listing queries)).render =
      Query.depthAll queries + 3 := by
    rw [Json.bracketDepth_eq_depth spelled, Draft.depth_tagged, depth_listing legible]
  rw [Json.ofText?_eq spelled, depth, Draft.value?_tagged (value?_listing legible)]

end Listing

/-- The queries of a document are read in order and put together. -/
theorem ofJson_listing {queries read : List Query}
    (each : (Query.meaningAll queries).mapM Query.ofJson = .ok read) :
    Query.ofJson (single "query" (single "queries" (.array (Query.meaningAll queries)))) =
      Join.document.assemble read :=
  Query.ofJson_of_joined rfl each

theorem document_eq_ok {definition : Definition} {document : Document}
    (made : definition.document = .ok document) :
    ∃ queries, definition.written = .ok queries ∧ document.content =
      match definition.encoding with
      | .json => (Draft.tagged "query" (listing queries)).render
      | .xml => (element queries).render := by
  rw [Definition.document] at made
  cases written : definition.written with
  | error failure =>
      rw [written] at made
      cases made
  | ok queries =>
      rw [written] at made
      cases made
      exact ⟨queries, rfl, rfl⟩

theorem document_of_written {definition : Definition} {queries : List Query}
    (json : definition.encoding = .json) (written : definition.written = .ok queries) :
    definition.document =
      .ok (.encoded .json (Draft.tagged "query" (listing queries)).render) := by
  rw [Definition.document, written, json]
  rfl

theorem written_of_root {definition : Definition} {root : Query} {queries : List Query}
    (rooted : definition.root = some root) (written : definition.written = .ok queries) :
    queries = [root.qualify definition.defaultSpace] ∧
      (root.qualify definition.defaultSpace).fault? definition.encoding = none := by
  simp only [Definition.written, rooted] at written
  split at written
  · cases written
  · next faultless =>
      cases written
      exact ⟨rfl, faultless⟩

/-- A JSON document with a root is read back as the root in the default namespace. -/
theorem ofText_document_of_root {definition : Definition} {root : Query} {document : Document}
    (json : definition.encoding = .json) (rooted : definition.root = some root)
    (free : root.VerbatimFree) (made : definition.document = .ok document) :
    Query.ofText document.content =
      if bracketDepth (root.render .json) ≤ 124 then
        .ok (root.qualify definition.defaultSpace).normal
      else .error (.clause .notJson) := by
  obtain ⟨queries, written, content⟩ := document_eq_ok made
  obtain ⟨rfl, faultless⟩ := written_of_root rooted written
  have qualifiedFree : (root.qualify definition.defaultSpace).VerbatimFree := by
    rw [Query.qualify_eq_mapElements]
    exact free.mapElements
  have depth : Query.depthAll [root.qualify definition.defaultSpace] + 3 ≤ 127 ↔
      bracketDepth (root.render .json) ≤ 124 := by
    rw [Query.bracketDepth_render free.legible, Query.depthAll, Query.depthAll,
      Query.qualify_eq_mapElements, Query.depth_mapElements]
    omega
  have each : (Query.meaningAll [root.qualify definition.defaultSpace]).mapM Query.ofJson =
      .ok [(root.qualify definition.defaultSpace).normal] := by
    simp only [Query.meaningAll, List.mapM_cons, Query.ofJson_meaning qualifiedFree faultless]
    rfl
  rw [json] at content
  rw [Query.ofText, content, ofText?_listing fun query mem => by
    rw [List.mem_singleton.mp mem]; exact qualifiedFree.legible]
  simp only [depth]
  by_cases shallow : bracketDepth (root.render .json) ≤ 124
  · rw [if_pos shallow, if_pos shallow]
    exact ofJson_listing each
  · rw [if_neg shallow, if_neg shallow]

/-- A JSON document without a root lists no query, and so it is not read as one. -/
theorem ofText_document_of_no_root {definition : Definition}
    (json : definition.encoding = .json) (noRoot : definition.root = none) :
    ∃ document, definition.document = .ok document ∧
      Query.ofText document.content = .error (.clause .emptyDocument) := by
  have written : definition.written = .ok [] := by
    simp only [Definition.written, noRoot]
  refine ⟨.encoded .json (Draft.tagged "query" (listing [])).render, ?_, ?_⟩
  · exact document_of_written json written
  · change Query.ofText (Draft.tagged "query" (listing [])).render = _
    have nothing : (Query.meaningAll []).mapM Query.ofJson = .ok [] := rfl
    rw [Query.ofText, ofText?_listing fun query mem => by cases mem]
    exact ofJson_listing nothing

/-- An XML document begins like no JSON text does. -/
theorem ofText_document_of_xml {definition : Definition} {document : Document}
    (xml : definition.encoding = .xml) (made : definition.document = .ok document) :
    Query.ofText document.content = .error (.clause .notJson) := by
  obtain ⟨queries, _, content⟩ := document_eq_ok made
  rw [xml] at content
  have begins : document.content.toList = '<' :: document.content.toList.tail := by
    simp [content, element, Xml.Draft.render]
  have unspelled : Json.Spelling.ofText? document.content = none := by
    rw [Json.Spelling.ofText?, begins]
    rfl
  rw [Query.ofText, Json.ofText?, unspelled]
  rfl

theorem encoding_of_mode_ne_xml {definition : Definition} (notXml : definition.mode ≠ .xml) :
    definition.encoding = .json := by
  rw [Definition.encoding]
  cases mode : definition.mode with
  | all => rfl
  | json => rfl
  | xml => exact absurd mode notXml

/--
What is read back from the document of a definition.  In a JSON mode it is the root in the
default namespace, up to the empty namespace, as long as the text of the root has at most 124
brackets open; so it is the root itself exactly if no namespace was empty or supplied.  A
document without a root lists no query, and an XML document is no JSON text.
-/
theorem ofText_document (definition : Definition) :
    (definition.mode ≠ .xml → ∀ root document, definition.root = some root →
      root.VerbatimFree → definition.document = .ok document →
        (bracketDepth (root.render .json) ≤ 124 →
          Query.ofText document.content = .ok (root.qualify definition.defaultSpace).normal ∧
          (Query.ofText document.content = .ok root ↔
            (∀ element ∈ root.elements, element.space ≠ some "") ∧
              (definition.defaultSpace = "" ∨
                ∀ element ∈ root.elements, element.space ≠ none))) ∧
        (124 < bracketDepth (root.render .json) →
          Query.ofText document.content = .error (.clause .notJson))) ∧
    (definition.mode ≠ .xml → definition.root = none →
      ∃ document, definition.document = .ok document ∧
        Query.ofText document.content = .error (.clause .emptyDocument)) ∧
    (definition.mode = .xml → ∀ document, definition.document = .ok document →
      Query.ofText document.content = .error (.clause .notJson)) := by
  refine ⟨?_, ?_, ?_⟩
  · intro notXml root document rooted free made
    have read := ofText_document_of_root (encoding_of_mode_ne_xml notXml) rooted free made
    constructor
    · intro shallow
      rw [if_pos shallow] at read
      refine ⟨read, ?_⟩
      rw [read, Except.ok.injEq]
      exact Query.normal_qualify_eq_self_iff
    · intro deep
      rw [read, if_neg (Nat.not_le.mpr deep)]
  · intro notXml noRoot
    exact ofText_document_of_no_root (encoding_of_mode_ne_xml notXml) noRoot
  · intro isXml document made
    have xml : definition.encoding = .xml := by rw [Definition.encoding, isXml]; rfl
    exact ofText_document_of_xml xml made

def shopQuery : Query :=
  .allOf [.elementEquals ⟨"sku", none⟩ "a\"b",
    .negate (.range (.element ⟨"price", some ""⟩) (some .lt) "5" "xs:int")]

def shopDefinition : Definition where
  mode := .all
  defaultSpace := "urn:shop"
  root := some shopQuery

/-- Reading the document supplies one namespace and forgets the other. -/
theorem ofText_document_shopDefinition :
    shopDefinition.mode ≠ .xml ∧ shopDefinition.root = some shopQuery ∧
      shopQuery.VerbatimFree ∧ bracketDepth (shopQuery.render .json) ≤ 124 ∧
      ∃ document, shopDefinition.document = .ok document ∧
        Query.ofText document.content =
          .ok (.allOf [.elementEquals ⟨"sku", some "urn:shop"⟩ "a\"b",
            .negate (.range (.element ⟨"price", none⟩) (some .lt) "5" "xs:int")]) ∧
        Query.ofText document.content ≠ .ok shopQuery := by
  obtain ⟨queries, written⟩ : ∃ queries, shopDefinition.written = .ok queries := ⟨_, rfl⟩
  obtain ⟨document, made⟩ : ∃ document, shopDefinition.document = .ok document := by
    rw [Definition.document, written]
    exact ⟨_, rfl⟩
  have notXml : shopDefinition.mode ≠ .xml := nofun
  have free : shopQuery.VerbatimFree := by decide
  have shallow : bracketDepth (shopQuery.render .json) ≤ 124 := by
    rw [Query.bracketDepth_render free.legible]
    decide
  obtain ⟨read, readsBack⟩ :=
    ((ofText_document shopDefinition).1 notXml shopQuery document rfl free made).1 shallow
  refine ⟨notXml, rfl, free, shallow, document, made, read, ?_⟩
  intro same
  have named := (readsBack.mp same).1 ⟨"price", some ""⟩ (by decide)
  exact named rfl

end SearchRequest.Definition

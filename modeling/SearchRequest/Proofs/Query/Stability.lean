import SearchRequest.Proofs.Json.Compact
import SearchRequest.Proofs.Query.Depth
import SearchRequest.Proofs.Query.NormalForm

/-!
# Reading settles a query

A query can be written in many ways, but a query that was read is written in one way, and it is
read back from there as it is.  So one round of reading and writing settles the text, also
where objects of an unknown kind are kept.
-/

namespace SearchRequest

open Json (bracketDepth single)

namespace Clause

/-- The text of an object that is kept is not blank. -/
theorem Keeps.not_blank {whole kept : Json} (keeps : Keeps whole kept) :
    Text.isBlank kept.compact = false :=
  keeps.unreserved.isBlank_compact

theorem Keeps.ordered {whole kept : Json} (keeps : Keeps whole kept) (ordered : whole.Ordered) :
    kept.Ordered := by
  rcases keeps.eq_or_inside with rfl | inside
  · exact ordered
  · exact ordered.of_inside inside

theorem Keeps.realsReadBack {whole kept : Json} (keeps : Keeps whole kept)
    (readBack : whole.RealsReadBack) : kept.RealsReadBack := by
  rcases keeps.eq_or_inside with rfl | inside
  · exact readBack
  · exact readBack.of_inside inside

end Clause

namespace Query

section Canonical

variable {query : Query} {kept : Json → Prop}

/-- A query of canonical nodes can be sent, unless a combination in it is empty. -/
theorem fault?_eq_none_of_canonical (canonical : ∀ node ∈ query.nodes, node.Canonical kept)
    (visible : ∀ json, kept json → Text.isBlank json.compact = false)
    (combines : ∀ node ∈ query.nodes, node ≠ .allOf [] ∧ node ≠ .anyOf []) :
    query.fault? .json = none := by
  rw [fault?_eq_none_iff_faultless, faultless_json_iff visible canonical]
  intro node mem
  exact not_or.mpr (combines node mem)

theorem normal_eq_self_of_canonical (canonical : ∀ node ∈ query.nodes, node.Canonical kept) :
    query.normal = query := by
  refine mapElements_eq_self_iff.mpr ?_
  intro element mem
  obtain ⟨node, inQuery, found⟩ := List.mem_filterMap.mp mem
  exact QualifiedName.normal_eq_self_iff.mpr ((canonical node inQuery).qualified element found)

theorem exists_kept_of_mem_verbatims (canonical : ∀ node ∈ query.nodes, node.Canonical kept)
    {text : String} (mem : text ∈ query.verbatims) : ∃ json, kept json ∧ text = json.compact := by
  obtain ⟨node, inQuery, found⟩ := List.mem_filterMap.mp mem
  cases node with
  | verbatim own encoding =>
      cases found
      exact ((canonical _ inQuery).verbatim text encoding rfl).2
  | _ => cases found

theorem legible_json_of_canonical (canonical : ∀ node ∈ query.nodes, node.Canonical kept)
    (printable : ∀ json, kept json → json.Printable) : query.json.Legible := by
  intro text mem
  rw [verbatims_json] at mem
  obtain ⟨json, keeps, rfl⟩ := exists_kept_of_mem_verbatims canonical mem
  rw [(printable json keeps).spelled_compact]
  rfl

/-- What is kept in a query is not deeper than the query, so it is read from its own text. -/
theorem ofText?_compact_of_mem_verbatims
    (canonical : ∀ node ∈ query.nodes, node.Canonical kept)
    (printable : ∀ json, kept json → json.Printable)
    (shallow : bracketDepth (query.render .json) ≤ 127) {json : Json} (keeps : kept json)
    (mem : json.compact ∈ query.verbatims) : Json.ofText? json.compact = some json := by
  have legible := legible_json_of_canonical canonical printable
  rw [← verbatims_json] at mem
  apply (printable json keeps).ofText?_compact
  calc bracketDepth json.compact ≤ query.json.spelling.depth :=
        Json.Draft.bracketDepth_le_of_mem_verbatims legible mem
    _ = bracketDepth (query.render .json) :=
        (Json.bracketDepth_eq_depth legible.ofText?_render).symm
    _ ≤ 127 := shallow

/-- A query of canonical nodes without faults is read from its text as it is. -/
theorem ofText_render_of_canonical (canonical : ∀ node ∈ query.nodes, node.Canonical kept)
    (printable : ∀ json, kept json → json.Printable)
    (ofKept : ∀ json, kept json → ofJson json = .ok (.verbatim json.compact .json))
    (faultless : query.fault? .json = none) (shallow : bracketDepth (query.render .json) ≤ 127) :
    ofText (query.render .json) = .ok query := by
  have legible : query.Legible := by
    intro text mem
    obtain ⟨json, keeps, rfl⟩ := exists_kept_of_mem_verbatims canonical mem
    rw [ofText?_compact_of_mem_verbatims canonical printable shallow keeps mem]
    rfl
  have verbatims : ∀ node ∈ query.nodes, node.kind = .verbatim →
      ofJson node.meaning = .ok node := by
    intro node mem isVerbatim
    cases node with
    | verbatim text encoding =>
        obtain ⟨rfl, json, keeps, rfl⟩ := (canonical _ mem).verbatim text encoding rfl
        have inQuery : json.compact ∈ query.verbatims := List.mem_filterMap.mpr ⟨_, mem, rfl⟩
        rw [meaning, ofText?_compact_of_mem_verbatims canonical printable shallow keeps inQuery]
        exact ofKept json keeps
    | _ => cases isVerbatim
  rw [ofText, ofText?_render legible, if_pos shallow]
  change ofJson query.meaning = .ok query
  rw [ofJson_meaning_of_nodes verbatims faultless, normal_eq_self_of_canonical canonical]

end Canonical

/--
A query that was read and combines something everywhere can be written as JSON, and from its
text it is read as it is, as long as the text never has more than 127 brackets open.  Besides
the order of members, which every value that is read from a text has, it is only asked that
binary64 values in the objects that are kept are read back from their decimals.
-/
theorem ofText_encode_ofJson {json : Json} {query : Query} (ordered : json.Ordered)
    (read : ofJson json = .ok query)
    (readBack : ∀ kept, Clause.Keeps json kept → kept.RealsReadBack)
    (combines : ∀ node ∈ query.nodes, node ≠ .allOf [] ∧ node ≠ .anyOf []) :
    ∃ text, query.encode .json = .ok text ∧
      (bracketDepth text ≤ 127 → ofText text = .ok query) := by
  have canonical := canonical_of_ofJson read
  have faultless : query.fault? .json = none :=
    fault?_eq_none_of_canonical canonical (fun kept keeps => keeps.not_blank) combines
  refine ⟨query.render .json, encode_eq_ok_iff.mpr ⟨faultless, rfl⟩, ?_⟩
  apply ofText_render_of_canonical canonical _ _ faultless
  · intro kept keeps
    exact Json.printable (keeps.ordered ordered) (readBack kept keeps)
  · intro kept keeps
    exact ofJson_of_leaf keeps.ofJson_kept

/-- The binary64 value that is written as one tenth. -/
def tenth : Binary64 :=
  ⟨false, 7205759403792794, -56, by decide⟩

def nearJson : Json :=
  single "near" (.array [.number (.real tenth)])

def nestedJson : Json :=
  single "query" (single "queries" (.array [
    single "value-query" (.object
      [("json-property", .text "p"), ("text", .array [.bool true, .text "a"])]),
    single "query" (single "queries" nearJson)]))

def nestedQuery : Query :=
  .allOf [.anyOf [.propertyEquals "p" "true", .propertyEquals "p" "a"],
    .verbatim nearJson.compact .json]

theorem ordered_nestedJson : nestedJson.Ordered := by
  have ofNear : nearJson.Ordered :=
    Json.ordered_of_ofText? (rfl : Json.ofText? "\x7b\"near\":[0.1]\x7d" = some nearJson)
  have ofValue : (Json.object
      [("json-property", .text "p"), ("text", .array [.bool true, .text "a"])]).Ordered := by
    refine .object (by decide) ?_
    simp only [List.forall_mem_cons]
    refine ⟨.text _, .array ?_, nofun⟩
    simp only [List.forall_mem_cons]
    exact ⟨.bool _, .text _, nofun⟩
  refine .single (.single (.array ?_))
  simp only [List.forall_mem_cons]
  exact ⟨.single ofValue, .single (.single ofNear), nofun⟩

theorem realsReadBack_nestedJson : nestedJson.RealsReadBack := by
  have ofNear : nearJson.RealsReadBack := by
    refine .single (.array ?_)
    rw [List.forall_mem_singleton]
    exact .real rfl
  have ofValue : (Json.object [("json-property", .text "p"),
      ("text", .array [.bool true, .text "a"])]).RealsReadBack := by
    refine .object ?_
    simp only [List.forall_mem_cons]
    refine ⟨.text _, .array ?_, nofun⟩
    simp only [List.forall_mem_cons]
    exact ⟨.bool _, .text _, nofun⟩
  refine .single (.single (.array ?_))
  simp only [List.forall_mem_cons]
  exact ⟨.single ofValue, .single (.single ofNear), nofun⟩

theorem ofJson_nestedJson : ofJson nestedJson = .ok nestedQuery := by
  have ofNear : ofJson nearJson = .ok (.verbatim nearJson.compact .json) := ofJson_of_leaf rfl
  have ofDocument : ofJson (single "query" (single "queries" nearJson)) =
      .ok (.verbatim nearJson.compact .json) := by
    have clause : Clause.ofJson (single "query" (single "queries" nearJson)) =
        .ok (.joined .document [nearJson]) := rfl
    have each : [nearJson].mapM ofJson = .ok [.verbatim nearJson.compact .json] := by
      rw [List.mapM_cons, ofNear]
      rfl
    exact ofJson_of_joined clause each
  have ofValue : ofJson (single "value-query" (.object
      [("json-property", .text "p"), ("text", .array [.bool true, .text "a"])])) =
      .ok (.anyOf [.propertyEquals "p" "true", .propertyEquals "p" "a"]) := ofJson_of_leaf rfl
  have clause : Clause.ofJson nestedJson = .ok (.joined .document [
      single "value-query" (.object
        [("json-property", .text "p"), ("text", .array [.bool true, .text "a"])]),
      single "query" (single "queries" nearJson)]) := rfl
  rw [ofJson_eq, clause]
  simp only [List.mapM_cons, ofValue, ofDocument]
  rfl

/-- Two values, a document inside a document and a kept object are settled in one round. -/
theorem ofText_encode_ofJson_nestedJson :
    nestedJson.Ordered ∧ ofJson nestedJson = .ok nestedQuery ∧
      (∀ kept, Clause.Keeps nestedJson kept → kept.RealsReadBack) ∧
      (∀ node ∈ nestedQuery.nodes, node ≠ .allOf [] ∧ node ≠ .anyOf []) ∧
      ∃ text, nestedQuery.encode .json = .ok text ∧ bracketDepth text ≤ 127 ∧
        ofText text = .ok nestedQuery := by
  have readBack : ∀ kept, Clause.Keeps nestedJson kept → kept.RealsReadBack := by
    intro kept keeps
    exact keeps.realsReadBack realsReadBack_nestedJson
  have combines : ∀ node ∈ nestedQuery.nodes, node ≠ .allOf [] ∧ node ≠ .anyOf [] := by decide
  obtain ⟨text, written, settled⟩ :=
    ofText_encode_ofJson ordered_nestedJson ofJson_nestedJson readBack combines
  have shallow : bracketDepth text ≤ 127 := by
    obtain ⟨_, rfl⟩ := encode_eq_ok_iff.mp written
    have legible : ∀ verbatim ∈ nestedQuery.verbatims, (Json.ofText? verbatim).isSome = true := by
      decide +kernel
    rw [bracketDepth_render legible]
    decide +kernel
  exact ⟨ordered_nestedJson, ofJson_nestedJson, readBack, combines, text, written, shallow,
    settled shallow⟩

end Query

end SearchRequest

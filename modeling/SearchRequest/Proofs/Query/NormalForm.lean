import SearchRequest.Proofs.Query.Shapes
import SearchRequest.Proofs.Query.Verdict

/-!
# The normal form of queries that were read

A clause can be spelled in many ways, but the query that comes of it has one form: every comparison
is set, no element is in the empty namespace, and a verbatim text is the compact text of the object
that it stands for.  What is left of the faults are combinations of no queries, which can be written
by hand.  So it can be told from a query that was read whether it can be written again, and how.
-/

namespace SearchRequest.Query

open Json (single)

/-! ## Canonical nodes -/

/-- What every node of a query is like that was read, where `kept` are the objects kept in it. -/
structure Canonical (kept : Json → Prop) (node : Query) : Prop where
  compared : ∀ container bound rangeType, node ≠ .range container none bound rangeType
  qualified : ∀ element, node.element? = some element → element.space ≠ some ""
  verbatim : ∀ text encoding, node = .verbatim text encoding →
    encoding = .json ∧ ∃ json, kept json ∧ text = json.compact

section Leaves

variable {kept : Json → Prop}

theorem Canonical.mono {kept' : Json → Prop} {node : Query} (canonical : node.Canonical kept)
    (imp : ∀ json, kept json → kept' json) : node.Canonical kept' := by
  refine ⟨canonical.compared, canonical.qualified, ?_⟩
  intro text encoding same
  obtain ⟨isJson, json, keeps, written⟩ := canonical.verbatim text encoding same
  exact ⟨isJson, json, imp json keeps, written⟩

theorem canonical_verbatim {json : Json} (keeps : kept json) :
    (Query.verbatim json.compact .json).Canonical kept := by
  refine ⟨nofun, nofun, ?_⟩
  intro text encoding same
  cases same
  exact ⟨rfl, json, keeps, rfl⟩

theorem canonical_of_kind {node : Query} (notVerbatim : node.kind ≠ .verbatim)
    (notRange : node.kind ≠ .range) (noElement : node.element? = none) : node.Canonical kept := by
  refine ⟨?_, ?_, ?_⟩
  · rintro container bound rangeType rfl
    exact absurd rfl notRange
  · intro element found
    rw [noElement] at found
    cases found
  · rintro text encoding rfl
    exact absurd rfl notVerbatim

theorem canonical_equals {container : Container}
    (qualified : ∀ element, container = .element element → element.space ≠ some "")
    (value : String) : (equals container value).Canonical kept := by
  cases container with
  | property name => exact canonical_of_kind nofun nofun rfl
  | element name =>
      refine ⟨nofun, ?_, nofun⟩
      intro element found
      cases found
      exact qualified _ rfl

theorem canonical_range {container : Container}
    (qualified : ∀ element, container = .element element → element.space ≠ some "")
    (comparison : Comparison) (bound rangeType : String) :
    (Query.range container (some comparison) bound rangeType).Canonical kept := by
  refine ⟨nofun, ?_, nofun⟩
  intro element found
  cases container with
  | property name => cases found
  | element name =>
      cases found
      exact qualified _ rfl

/-- Whatever combines queries is canonical by itself. -/
theorem forall_canonical_iff {query : Query} :
    (∀ node ∈ query.nodes, node.Canonical kept) ↔ ∀ leaf ∈ query.leaves, leaf.Canonical kept := by
  constructor
  · intro canonical leaf mem
    obtain ⟨node, inQuery, own⟩ := List.mem_filterMap.mp mem
    exact eq_of_leaf? own ▸ canonical node inQuery
  · intro canonical node mem
    cases own : node.leaf? with
    | some leaf =>
        have inLeaves : leaf ∈ query.leaves := List.mem_filterMap.mpr ⟨node, mem, own⟩
        exact eq_of_leaf? own ▸ canonical leaf inLeaves
    | none => cases node <;> cases own <;> exact canonical_of_kind nofun nofun rfl

end Leaves

/-- An element that is named without a namespace, or with an empty one, is in no namespace. -/
theorem qualified_of_namesContainer {body : Json} {container : Container}
    (names : Clause.NamesContainer body container) (element : QualifiedName)
    (named : container = .element element) : element.space ≠ some "" := by
  cases names with
  | property found => cases named
  | element noProperty found own =>
      cases named
      exact QualifiedName.space_inSpace_ne _ _

theorem canonical_of_simple {json : Json} {leaves : List Query}
    (simple : Clause.Simple json leaves) :
    ∀ leaf ∈ leaves, leaf.Canonical (Clause.Keeps json) := by
  cases simple with
  | value names found scalars someText =>
      rw [List.forall_mem_map]
      intro text _
      exact canonical_equals (qualified_of_namesContainer names) text
  | range names compares found scalars someBound =>
      rw [List.forall_mem_map]
      intro bound _
      exact canonical_range (qualified_of_namesContainer names) _ bound _
  | collections found scalars =>
      rw [List.forall_mem_singleton]
      exact canonical_of_kind nofun nofun rfl
  | documents found scalars =>
      rw [List.forall_mem_singleton]
      exact canonical_of_kind nofun nofun rfl
  | unknown body unreserved =>
      rw [List.forall_mem_singleton]
      obtain ⟨noDocument, noKind⟩ := Clause.notMem_reservedKeys_iff.mp unreserved
      exact canonical_verbatim (.whole body noDocument noKind)

/-- Every node of a query that was read is canonical. -/
theorem canonical_of_ofJson {json : Json} {query : Query} (read : ofJson json = .ok query) :
    ∀ node ∈ query.nodes, node.Canonical (Clause.Keeps json) := by
  rw [forall_canonical_iff]
  refine ofJson_induction
    (motive := fun json query => ∀ leaf ∈ query.leaves, leaf.Canonical (Clause.Keeps json))
    ?leaf ?negated ?joined read
  case leaf =>
    intro json query clause
    exact canonical_of_simple (Clause.describes_of_ofJson clause)
  case negated =>
    intro json body query clause ih
    rw [leaves_negate]
    intro leaf mem
    exact (ih leaf mem).mono fun kept keeps => .part clause List.mem_cons_self keeps
  case joined =>
    intro json join parts queries query clause each assembled
    rw [(leaves_of_assemble assembled).2, List.forall_mem_flatMap]
    refine Traversal.forall_mem_of_forall₂ each ?_
    intro part mem query ofPart leaf inQuery
    exact (ofPart leaf inQuery).mono fun kept keeps => .part clause mem keeps

/-! ## Writing again -/

def CombinesNothing (node : Query) : Prop :=
  node = .allOf [] ∨ node = .anyOf []

section Canonical

variable {kept : Json → Prop} (visible : ∀ json, kept json → Text.isBlank json.compact = false)

section Node

variable {node : Query} (canonical : node.Canonical kept)

include visible canonical

/-- In a node that was read, to combine nothing is the only fault as JSON. -/
theorem faulty_json_iff {error : Error} :
    Faulty .json node error ↔ node.CombinesNothing ∧ error = .emptyComposite node.kind := by
  constructor
  · intro faulty
    cases faulty with
    | noConjunct => exact ⟨.inl rfl, rfl⟩
    | noAlternative => exact ⟨.inr rfl, rfl⟩
    | unset container bound rangeType => exact absurd rfl (canonical.compared _ _ _)
    | blank authored blank =>
        obtain ⟨-, json, keeps, rfl⟩ := canonical.verbatim _ _ rfl
        have isBlank : Text.isBlank json.compact = true := List.all_eq_true.mpr blank
        rw [visible json keeps] at isBlank
        cases isBlank
    | foreign _ other => exact absurd (canonical.verbatim _ _ rfl).1 other
  · rintro ⟨rfl | rfl, rfl⟩
    · exact .noConjunct
    · exact .noAlternative

theorem not_faulty_json_iff : (∀ error, ¬Faulty .json node error) ↔ ¬node.CombinesNothing := by
  simp only [← not_exists, faulty_json_iff visible canonical, exists_and_left, exists_eq, and_true]

/-- As XML, a text is a fault, too. -/
theorem not_faulty_xml_iff :
    (∀ error, ¬Faulty .xml node error) ↔ ¬node.CombinesNothing ∧ node.kind ≠ .verbatim := by
  by_cases verbatim : node.kind = .verbatim
  · cases node <;> cases verbatim
    obtain ⟨rfl, json, keeps, rfl⟩ := canonical.verbatim _ _ rfl
    have shown : ∃ c ∈ json.compact.toList, Text.isBlankChar c = false := by
      simpa [Text.isBlank] using visible json keeps
    have foreign := Faulty.foreign shown (by decide : Encoding.json ≠ .xml)
    exact iff_of_false (fun faultless => faultless _ foreign) (·.2 rfl)
  · have sameFaults (error : Error) : Faulty .xml node error ↔ Faulty .json node error := by
      rw [← ownFault?_eq_some_iff, ownFault?_eq_of_kind_ne verbatim .xml .json,
        ownFault?_eq_some_iff]
    rw [forall_congr' fun error => not_congr (sameFaults error),
      not_faulty_json_iff visible canonical, and_iff_left verbatim]

end Node

variable {query : Query} (canonical : ∀ node ∈ query.nodes, node.Canonical kept)

include visible canonical

theorem faultless_json_iff :
    query.Faultless .json ↔ ∀ node ∈ query.nodes, ¬node.CombinesNothing :=
  forall₂_congr fun node mem => not_faulty_json_iff visible (canonical node mem)

theorem faultless_xml_iff :
    query.Faultless .xml ↔
      (∀ node ∈ query.nodes, ¬node.CombinesNothing) ∧ query.VerbatimFree := by
  rw [verbatimFree_iff, ← forall₂_and]
  exact forall₂_congr fun node mem => not_faulty_xml_iff visible (canonical node mem)

theorem firstFault_json_iff {error : Error} :
    query.FirstFault .json error ↔
      ∃ before node after, query.nodes = before ++ node :: after ∧ node.CombinesNothing ∧
        error = .emptyComposite node.kind ∧ ∀ earlier ∈ before, ¬earlier.CombinesNothing := by
  refine exists_congr fun before => exists_congr fun node => exists_congr fun after =>
    and_congr_right fun walk => ?_
  rw [walk] at canonical
  have ofNode := canonical node (by simp)
  have ofEarlier : ∀ earlier ∈ before,
      ((∀ error, ¬Faulty .json earlier error) ↔ ¬earlier.CombinesNothing) := fun earlier mem =>
    not_faulty_json_iff visible (canonical earlier (List.mem_append_left _ mem))
  rw [faulty_json_iff visible ofNode, and_assoc, forall₂_congr ofEarlier]

end Canonical

/-- Every object that is kept in a query that was read has a key of its own. -/
theorem unreserved_of_ofJson {json : Json} {query : Query} (read : ofJson json = .ok query) :
    ∀ node ∈ query.nodes, node.Canonical Clause.Unreserved := by
  intro node mem
  exact (canonical_of_ofJson read node mem).mono fun kept keeps => keeps.unreserved

/--
Every node of a query that was read is in normal form: its comparison is set, its element is not in
the empty namespace, and a text is the compact JSON of an object with one key, which is not
reserved.  Such a query can be written as JSON unless it combines nothing somewhere, and the error
tells of the first place where it does.  It can be written as XML if it holds no text besides.
-/
theorem encode_of_ofJson {json : Json} {query : Query} (read : ofJson json = .ok query) :
    (∀ node ∈ query.nodes, node.Canonical Clause.Unreserved) ∧
    ((∃ text, query.encode .json = .ok text) ↔ ∀ node ∈ query.nodes, ¬node.CombinesNothing) ∧
    (∀ error, query.encode .json = .error error ↔
      ∃ before node after, query.nodes = before ++ node :: after ∧ node.CombinesNothing ∧
        error = .emptyComposite node.kind ∧ ∀ earlier ∈ before, ¬earlier.CombinesNothing) ∧
    ((∃ text, query.encode .xml = .ok text) ↔
      (∀ node ∈ query.nodes, ¬node.CombinesNothing) ∧ query.VerbatimFree) := by
  have canonical := unreserved_of_ofJson read
  have visible : ∀ json, Clause.Unreserved json → Text.isBlank json.compact = false :=
    fun _ unreserved => unreserved.isBlank_compact
  refine ⟨canonical, ?_, ?_, ?_⟩
  · rw [exists_encode_eq_ok_iff, faultless_json_iff visible canonical]
  · intro error
    rw [encode_eq_error_iff, fault?_eq_some_iff_firstFault,
      firstFault_json_iff visible canonical]
  · rw [exists_encode_eq_ok_iff, faultless_xml_iff visible canonical]

def hollowJson : Json :=
  single "and-query" (single "queries" (.array
    [single "near-query" .null, single "or-query" (single "queries" (.array []))]))

def hollowQuery : Query :=
  .allOf [.verbatim (single "near-query" .null).compact .json, .anyOf []]

theorem ofJson_hollowJson : ofJson hollowJson = .ok hollowQuery := by
  have clause : Clause.ofJson hollowJson = .ok (.joined .allOf
      [single "near-query" .null, single "or-query" (single "queries" (.array []))]) := rfl
  have ofNear : ofJson (single "near-query" .null) =
      .ok (.verbatim (single "near-query" .null).compact .json) := ofJson_of_leaf rfl
  have nothing : Clause.ofJson (single "or-query" (single "queries" (.array []))) =
      .ok (.joined .anyOf []) := rfl
  have ofNothing : ofJson (single "or-query" (single "queries" (.array []))) = .ok (.anyOf []) :=
    ofJson_of_joined nothing rfl
  refine (ofJson_of_joined clause ?_).trans rfl
  rw [List.mapM_cons, ofNear, List.mapM_cons, ofNothing]
  rfl

/-- The query cannot be written, and what is told is the disjunction, not the text before it. -/
theorem encode_of_ofJson_hollowJson :
    ofJson hollowJson = .ok hollowQuery ∧
      (∀ node ∈ hollowQuery.nodes, node.Canonical Clause.Unreserved) ∧
      hollowQuery.encode .json = .error (.emptyComposite .anyOf) ∧
      ¬∃ text, hollowQuery.encode .xml = .ok text := by
  obtain ⟨canonical, -, faults, asXml⟩ := encode_of_ofJson ofJson_hollowJson
  refine ⟨ofJson_hollowJson, canonical, ?_, ?_⟩
  · refine (faults _).mpr ⟨[hollowQuery, .verbatim _ .json], .anyOf [], [], rfl, .inr rfl, rfl, ?_⟩
    simp [CombinesNothing, hollowQuery]
  · rw [asXml]
    exact fun sent => sent.1 (.anyOf []) (by decide) (.inr rfl)

end SearchRequest.Query

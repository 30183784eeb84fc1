import SearchRequest.Proofs.Definition.Fragment
import SearchRequest.Proofs.Definition.Runs
import SearchRequest.Proofs.Query.Qualified

/-!
# The default namespace of a definition

The default namespace is supplied as the root is written, and this makes no difference to having
supplied it before.  The document and the fragment are made of the same text, and they fail
together, for the fault that the stored root has.  Writing leaves the stored root as it is, so that
it can be written in another default namespace later on.
-/

namespace SearchRequest.Definition

/-- The definition whose root has the default namespace already, with another one in its place. -/
def qualifiedEarly (definition : Definition) (space : String) : Definition :=
  { definition with
    defaultSpace := space
    root := definition.root.map (Query.qualify definition.defaultSpace) }

/-! ## What is written -/

section Written

variable {definition : Definition}

/-- A namespace that was supplied in advance leaves nothing to be supplied. -/
theorem written_qualifiedEarly {space : String}
    (settled : space = "" ∨ definition.defaultSpace ≠ "") :
    (definition.qualifiedEarly space).written = definition.written := by
  have again (root : Query) :
      (root.qualify definition.defaultSpace).qualify space =
        root.qualify definition.defaultSpace := by
    rw [Query.qualify_qualify]
    split
    · next empty => rw [settled.resolve_right (not_not.mpr empty), empty]
    · rfl
  cases rooted : definition.root with
  | none => simp only [written, qualifiedEarly, rooted, Option.map_none]
  | some root =>
      simp only [written, qualifiedEarly, rooted, Option.map_some, again]
      rfl

/-- What is written fails for the fault of the stored root, told of the qualified one. -/
theorem written_eq_error_iff {failure : Error} :
    definition.written = .error failure ↔
      ∃ root error, definition.root = some root ∧
        root.fault? definition.encoding = some error ∧
          failure = error.qualify definition.defaultSpace := by
  cases rooted : definition.root with
  | none => simp [written, rooted]
  | some root =>
      simp only [written, rooted, Query.fault?_qualify]
      cases fault : root.fault? definition.encoding <;> simp [fault, eq_comm]

/-- Only the empty namespace, where it was stated, is written if another one is supplied. -/
theorem writtenSpace_ne_of_written (nonempty : definition.defaultSpace ≠ "")
    (stated : ∀ root, definition.root = some root →
      ∀ element ∈ root.elements, element.space ≠ some "")
    {queries : List Query} (written : definition.written = .ok queries) :
    ∀ query ∈ queries, ∀ element ∈ query.elements, element.writtenSpace ≠ "" := by
  refine forall_mem_written written fun root rooted => ?_
  rw [Query.qualify_eq_mapElements, Query.elements_mapElements, List.forall_mem_map]
  intro element mem
  exact QualifiedName.writtenSpace_qualify_ne nonempty (stated root rooted element mem)

end Written

/-! ## Documents and fragments -/

def documentText : Encoding → String → String
  | .json, body => "\x7b" ++ body ++ "\x7d"
  | .xml, body => body

def fragmentText : Encoding → String → String
  | .json, body => body ++ ","
  | .xml, body => body

/-- The text that the document and the fragment of several queries share. -/
def body (queries : List Query) : Encoding → String
  | .json => Json.Draft.renderMembers "" [("query", listing queries)]
  | .xml => (element queries).render

section Texts

variable (definition : Definition)

theorem document_eq_map : definition.document = definition.written.map fun queries =>
    .encoded definition.encoding
      (documentText definition.encoding (body queries definition.encoding)) := by
  rw [document]
  cases definition.encoding <;> rfl

theorem fragment_eq_map : definition.fragment = definition.written.map fun queries =>
    .encoded definition.encoding
      (fragmentText definition.encoding (body queries definition.encoding)) := by
  rw [fragment]
  cases definition.encoding <;> rfl

/-- The document and the fragment fail together or are both made of one text. -/
theorem document_fragment_cases :
    (∃ failure, definition.document = .error failure ∧ definition.fragment = .error failure) ∨
    ∃ queries, definition.written = .ok queries ∧
      definition.document = .ok (.encoded definition.encoding
        (documentText definition.encoding (body queries definition.encoding))) ∧
      definition.fragment = .ok (.encoded definition.encoding
        (fragmentText definition.encoding (body queries definition.encoding))) := by
  rw [document_eq_map, fragment_eq_map]
  cases definition.written with
  | error failure => exact .inl ⟨failure, rfl, rfl⟩
  | ok queries => exact .inr ⟨queries, rfl, rfl, rfl⟩

theorem document_eq_error_iff {failure : Error} :
    definition.document = .error failure ↔ definition.written = .error failure := by
  rw [document_eq_map]
  cases definition.written <;> simp [Except.map]

end Texts

/-! ## The stored root -/

inductive Use where
  | call (call : Call)
  | document
  | fragment

namespace Use

def apply (definition : Definition) : Use → Except Error (Option Query ⊕ Document) × Definition
  | .call made => ((made.apply definition).1.map .inl, (made.apply definition).2)
  | .document => (definition.document.map .inr, definition)
  | .fragment => (definition.fragment.map .inr, definition)

/-- The use is a call that stores another root or takes the root away. -/
def ReplacesRoot : Use → Prop
  | .call (.setRoot _) | .call .takeRoot => True
  | _ => False

end Use

def after (definition : Definition) (uses : List Use) : Definition :=
  uses.foldl (fun definition use => (use.apply definition).2) definition

theorem root_attempt_register (definition : Definition) (reference : Reference) :
    (definition.attempt (definition.register reference)).2.root = definition.root := by
  rcases definition.register_cases reference with ⟨-, refused⟩ | ⟨-, _, -, accepted⟩
  · rw [refused]
    rfl
  · rw [accepted]
    rfl

theorem root_apply {use : Use} (keeps : ¬use.ReplacesRoot) (definition : Definition) :
    (use.apply definition).2.root = definition.root := by
  cases use with
  | call call =>
      cases call with
      | register reference => exact root_attempt_register definition reference
      | registerProperty name property => exact root_attempt_register definition _
      | registerElement name element space => exact root_attempt_register definition _
      | setRoot root => exact absurd trivial keeps
      | takeRoot => exact absurd trivial keeps
      | _ => rfl
  | document => rfl
  | fragment => rfl

/-- The stored root stays through all uses that do not put another one in its place. -/
theorem root_after {uses : List Use} (keep : ∀ use ∈ uses, ¬use.ReplacesRoot)
    (definition : Definition) : (definition.after uses).root = definition.root := by
  induction uses generalizing definition with
  | nil => rfl
  | cons use rest ih =>
      rw [List.forall_mem_cons] at keep
      exact (ih keep.2 _).trans (root_apply keep.1 definition)

/--
A definition writes what it would write if its root had been in the default namespace from the
start, whatever default namespace comes after one that is not empty.  Its document and its fragment
have the same text inside, or they fail for the same reason.  That is the fault of the stored root,
whose message differs at most in the namespace that it shows.  Where no element is in the empty
namespace by its own choice, none is written with it, and the stored root never changes.
-/
theorem writes_as_qualified_early (definition : Definition) :
    (∀ space, space = "" ∨ definition.defaultSpace ≠ "" →
      (definition.qualifiedEarly space).document = definition.document ∧
        (definition.qualifiedEarly space).fragment = definition.fragment) ∧
    ((∃ failure, definition.document = .error failure ∧ definition.fragment = .error failure) ∨
      ∃ queries, definition.written = .ok queries ∧
        definition.document = .ok (.encoded definition.encoding
          (documentText definition.encoding (body queries definition.encoding))) ∧
        definition.fragment = .ok (.encoded definition.encoding
          (fragmentText definition.encoding (body queries definition.encoding)))) ∧
    (∀ failure, definition.document = .error failure ↔
      ∃ root error, definition.root = some root ∧
        root.fault? definition.encoding = some error ∧
          failure = error.qualify definition.defaultSpace) ∧
    (∀ error : Error, error.qualify definition.defaultSpace = error ∨
      ∃ name front back, error = .comparisonUnset (.element ⟨name, none⟩) ∧
        error.qualify definition.defaultSpace =
          .comparisonUnset (.element ⟨name, some definition.defaultSpace⟩) ∧
        error.message = front ++ "None" ++ back ∧
        (error.qualify definition.defaultSpace).message =
          front ++ ("Some(" ++ Text.diagnostic definition.defaultSpace ++ ")") ++ back) ∧
    (definition.defaultSpace ≠ "" →
      (∀ root, definition.root = some root →
        ∀ element ∈ root.elements, element.space ≠ some "") →
      ∀ queries, definition.written = .ok queries →
        ∀ query ∈ queries, ∀ element ∈ query.elements, element.writtenSpace ≠ "") ∧
    ∀ uses : List Use, (∀ use ∈ uses, ¬use.ReplacesRoot) →
      (definition.after uses).root = definition.root := by
  refine ⟨?_, definition.document_fragment_cases, ?_, ?_, ?_, ?_⟩
  · intro space settled
    have sameWritten := written_qualifiedEarly settled
    constructor
    · rw [document_eq_map, document_eq_map, sameWritten]
      rfl
    · rw [fragment_eq_map, fragment_eq_map, sameWritten]
      rfl
  · intro failure
    rw [document_eq_error_iff, written_eq_error_iff]
  · intro error
    rcases error.qualify_cases definition.defaultSpace with same | ⟨-, name, rfl, changed⟩
    · exact .inl same
    · obtain ⟨front, back, before, after⟩ := Error.exists_message_eq name
      exact .inr ⟨name, front, back, rfl, changed, before, changed ▸ after _⟩
  · intro nonempty stated queries written
    exact writtenSpace_ne_of_written nonempty stated written
  · intro uses keep
    exact root_after keep definition

def ledgerDefinition : Definition where
  mode := .xml
  defaultSpace := "urn:ledger"
  root := some (.allOf [.elementEquals ⟨"entry", none⟩ "7",
    .negate (.range (.element ⟨"amount", none⟩) none "5" "xs:int")])

def entryDefinition : Definition :=
  ledgerDefinition.setRoot (.negate (.elementEquals ⟨"entry", none⟩ "7"))

/--
The missing comparison is told of the element in the default namespace, before and after another
namespace was chosen, and without it the element is written in that namespace.
-/
theorem writes_as_qualified_early_ledgerDefinition :
    (ledgerDefinition.qualifiedEarly "urn:late").document = ledgerDefinition.document ∧
      ledgerDefinition.document =
        .error (.comparisonUnset (.element ⟨"amount", some "urn:ledger"⟩)) ∧
      ledgerDefinition.fragment = ledgerDefinition.document ∧
      (∃ queries, entryDefinition.written = .ok queries ∧
        entryDefinition.document = .ok (.encoded .xml (body queries .xml)) ∧
        entryDefinition.fragment = entryDefinition.document ∧
        ∀ query ∈ queries, ∀ element ∈ query.elements, element.writtenSpace ≠ "") ∧
      (entryDefinition.after
        [.document, .call (.setDefaultSpace "urn:late"), .fragment]).root =
        entryDefinition.root := by
  obtain ⟨early, together, failing, -, -, -⟩ := writes_as_qualified_early ledgerDefinition
  obtain ⟨-, together', -, -, named, stays⟩ := writes_as_qualified_early entryDefinition
  have failed : ledgerDefinition.document =
      .error (.comparisonUnset (.element ⟨"amount", some "urn:ledger"⟩)) :=
    (failing _).mpr ⟨_, .comparisonUnset (.element ⟨"amount", none⟩), rfl, rfl, rfl⟩
  refine ⟨(early "urn:late" (.inr (by decide))).1, failed, ?_, ?_, ?_⟩
  · rcases together with ⟨failure, ofDocument, ofFragment⟩ | ⟨queries, -, ofDocument, -⟩
    · rw [ofDocument, ofFragment]
    · rw [failed] at ofDocument
      cases ofDocument
  · rcases together' with ⟨failure, ofDocument, -⟩ | ⟨queries, written, ofDocument, ofFragment⟩
    · cases ofDocument
    · refine ⟨queries, written, ofDocument, ofFragment.trans ofDocument.symm, ?_⟩
      exact named (by decide) (by rintro root ⟨⟩; decide) queries written
  · exact stays _ (by simp [Use.ReplacesRoot])

end SearchRequest.Definition

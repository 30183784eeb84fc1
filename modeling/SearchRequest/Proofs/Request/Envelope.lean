import SearchRequest.Proofs.Definition.Fragment
import SearchRequest.Proofs.Request.MediaTypes
import SearchRequest.Proofs.Xml.Entities

/-!
# Payloads that cannot be confused

A request carries the fragment of a definition, options and escaped free text.  Its envelope
puts fixed texts around them.  The list of queries shows where it ends and the escaped text
cannot reach beyond its closing delimiter, so neither can be taken for a part of anything else
in the payload, whatever the options are.
-/

namespace SearchRequest.Request

def ofParts (fragment options : Document) (encoding : Encoding) (text : String) : Request :=
  ⟨fragment, options, escape encoding text⟩

def opening : Encoding → String
  | .json => "\x7b\"search\": \x7b\"query\":"
  | .xml => "<search>"

def middle (options : String) : Encoding → String
  | .json => "," ++ (options ++ "\"qtext\": \"")
  | .xml => options ++ "<qtext>"

def closing : Encoding → String
  | .json => "\"\x7d\x7d"
  | .xml => "</qtext></search>"

open Definition (listed)

variable {definition definition' : Definition} {fragment fragment' options options' : Document}

theorem envelope_json (request : Request) :
    request.envelope .json = "\x7b\"search\": \x7b" ++ request.query.content ++
      request.options.content ++ "\"qtext\": \"" ++ request.freeText ++ "\"\x7d\x7d" :=
  rfl

theorem envelope_xml (request : Request) :
    request.envelope .xml = "<search>" ++ request.query.content ++ request.options.content ++
      "<qtext>" ++ request.freeText ++ "</qtext></search>" :=
  rfl

/-- The envelope around a fragment shows the queries of the definition and the free text. -/
theorem envelope_ofParts (made : definition.fragment = .ok fragment) (options : Document)
    (text : String) :
    ∃ queries, definition.written = .ok queries ∧
      (ofParts fragment options definition.encoding text).envelope definition.encoding =
        opening definition.encoding ++ (listed queries definition.encoding ++
          (middle options.content definition.encoding ++
            (escape definition.encoding text ++ closing definition.encoding))) := by
  obtain ⟨queries, written, rfl⟩ := Definition.fragment_eq_ok made
  refine ⟨queries, written, ?_⟩
  cases definition.encoding with
  | json =>
      have joined : opening .json = "\x7b\"search\": \x7b" ++ "\"query\":" := rfl
      simp only [envelope_json, ofParts, Document.encoded, middle, closing, joined,
        String.append_assoc]
  | xml =>
      simp only [envelope_xml, ofParts, Document.encoded, opening, middle, closing,
        String.append_assoc]

/-- Options without a media type, or with the one of the fragment, go with the fragment. -/
theorem settlesOn_ofParts (made : definition.fragment = .ok fragment)
    (fitting : options.mediaType = "" ∨ options.mediaType = definition.encoding.mediaType)
    (text : String) :
    (ofParts fragment options definition.encoding text).SettlesOn definition.encoding := by
  obtain ⟨queries, -, rfl⟩ := Definition.fragment_eq_ok made
  have set := definition.encoding.mediaType_ne_empty
  constructor
  · exact typeBeside_of_ne set options.mediaType
  · rcases fitting with unset | same
    · exact (congrArg (typeBeside · _) unset).trans (typeBeside_unset set)
    · exact (typeBeside_of_ne (same.trans_ne set) _).trans same

/-- The payload of a fragment is the envelope in the encoding of the definition. -/
theorem payload_ofParts (made : definition.fragment = .ok fragment)
    (fitting : options.mediaType = "" ∨ options.mediaType = definition.encoding.mediaType)
    (text : String) :
    ∃ queries, definition.written = .ok queries ∧
      (ofParts fragment options definition.encoding text).payload.1 =
        .ok (.encoded definition.encoding (opening definition.encoding ++
          (listed queries definition.encoding ++ (middle options.content definition.encoding ++
            (escape definition.encoding text ++ closing definition.encoding))))) := by
  obtain ⟨queries, written, written'⟩ := envelope_ofParts made options text
  refine ⟨queries, written, ?_⟩
  rw [(settlesOn_ofParts made fitting text).payload_eq_ok, written']

/-! ## The parts of a payload told apart -/

/-- No two texts are escaped alike. -/
theorem escape_injective {encoding : Encoding} {text text' : String}
    (same : escape encoding text = escape encoding text') : text = text' := by
  cases encoding with
  | json =>
      have quoted : Json.quote text = Json.quote text' :=
        congrArg (fun escaped => "\"" ++ escaped ++ "\"") same
      have ended : (Json.quote text).toList ++ [] = (Json.quote text').toList ++ [] := by
        rw [quoted]
      exact ((Json.isLiteral_quote text).append_inj (Json.isLiteral_quote text') ended).1
  | xml =>
      have escaped : Xml.escape text = Xml.escape text' := same
      rw [← Xml.unescape_escape text, escaped, Xml.unescape_escape]

/-- Without verbatim texts in the root, none are written. -/
theorem verbatimFree_of_written {queries : List Query}
    (free : ∀ root, definition.root = some root → root.VerbatimFree)
    (written : definition.written = .ok queries) : ∀ query ∈ queries, query.VerbatimFree := by
  refine Definition.forall_mem_written written ?_
  intro root rooted
  rw [Query.qualify_eq_mapElements]
  exact (free root rooted).mapElements

theorem normal_of_written {queries : List Query} (written : definition.written = .ok queries) :
    queries.map Query.normal =
      (definition.root.map fun root => (root.qualify definition.defaultSpace).normal).toList := by
  rw [Definition.eq_of_written written, ← Option.toList_map, Option.map_map]
  rfl

/--
Two requests with the same options have the same payload exactly if they ask for the same:
the same free text, and the same root in the default namespace up to the empty namespace, or
no root at all.  Nothing in a value, a name or a free text can change this.
-/
theorem payload_unambiguous {encoding : Encoding}
    (encoded : definition.encoding = encoding) (encoded' : definition'.encoding = encoding)
    (free : ∀ root, definition.root = some root → root.VerbatimFree)
    (free' : ∀ root, definition'.root = some root → root.VerbatimFree)
    (made : definition.fragment = .ok fragment) (made' : definition'.fragment = .ok fragment')
    (fitting : options.mediaType = "" ∨ options.mediaType = encoding.mediaType)
    (fitting' : options'.mediaType = "" ∨ options'.mediaType = encoding.mediaType)
    (sameOptions : options.content = options'.content) (text text' : String) :
    ∃ document document',
      (ofParts fragment options encoding text).payload.1 = .ok document ∧
      (ofParts fragment' options' encoding text').payload.1 = .ok document' ∧
      (document.content = document'.content ↔ text = text' ∧
        definition.root.map (fun root => (root.qualify definition.defaultSpace).normal) =
          definition'.root.map fun root => (root.qualify definition'.defaultSpace).normal) := by
  subst encoded
  rw [← encoded'] at fitting'
  obtain ⟨queries, written, payload⟩ := payload_ofParts made fitting text
  obtain ⟨queries', written', payload'⟩ := payload_ofParts made' fitting' text'
  rw [encoded'] at payload'
  refine ⟨_, _, payload, payload', ?_⟩
  have rest : escape definition.encoding text ++ closing definition.encoding =
      escape definition.encoding text' ++ closing definition.encoding ↔ text = text' := by
    rw [String.append_left_inj]
    exact ⟨escape_injective, congrArg _⟩
  have roots (root root' : Option Query) : root.toList = root'.toList ↔ root = root' := by
    cases root <;> cases root' <;> simp
  simp only [Document.encoded, sameOptions, String.append_right_inj]
  rw [Definition.listed_append_eq_iff (verbatimFree_of_written free written)
      (verbatimFree_of_written free' written'), String.append_right_inj, rest,
    normal_of_written written, normal_of_written written', roots]
  exact and_comm

def lateDefinition : Definition where
  mode := .all
  defaultSpace := "urn:shop"
  root := some (.elementEquals ⟨"sku", none⟩ "\"]\x7d,\"qtext\": \"")

def earlyDefinition : Definition where
  root := some (.elementEquals ⟨"sku", some "urn:shop"⟩ "\"]\x7d,\"qtext\": \"")

/-- Both definitions ask for the same; a free text full of delimiters makes a difference. -/
theorem payload_unambiguous_earlyDefinition :
    ∃ fragment fragment', lateDefinition.fragment = .ok fragment ∧
      earlyDefinition.fragment = .ok fragment' ∧
      (∃ document document',
        (ofParts fragment ⟨"]", ""⟩ .json "cat").payload.1 = .ok document ∧
        (ofParts fragment' ⟨"]", "application/json"⟩ .json "cat").payload.1 = .ok document' ∧
        document.content = document'.content) ∧
      ∃ document document',
        (ofParts fragment ⟨"]", ""⟩ .json "cat").payload.1 = .ok document ∧
        (ofParts fragment' ⟨"]", "application/json"⟩ .json "\"\x7d\x7d").payload.1 =
          .ok document' ∧
        document.content ≠ document'.content := by
  obtain ⟨fragment, made⟩ : ∃ fragment, lateDefinition.fragment = .ok fragment := ⟨_, rfl⟩
  obtain ⟨fragment', made'⟩ : ∃ fragment, earlyDefinition.fragment = .ok fragment := ⟨_, rfl⟩
  have free : ∀ root, lateDefinition.root = some root → root.VerbatimFree := by
    rintro _ ⟨⟩
    rfl
  have free' : ∀ root, earlyDefinition.root = some root → root.VerbatimFree := by
    rintro _ ⟨⟩
    rfl
  have json : lateDefinition.encoding = .json := rfl
  have json' : earlyDefinition.encoding = .json := rfl
  have told := @payload_unambiguous _ _ _ _ ⟨"]", ""⟩ ⟨"]", "application/json"⟩ _ json json'
    free free' made made' (.inl rfl) (.inr rfl) rfl
  refine ⟨fragment, fragment', made, made', ?_, ?_⟩
  · obtain ⟨document, document', payload, payload', same⟩ := told "cat" "cat"
    exact ⟨document, document', payload, payload', same.mpr ⟨rfl, rfl⟩⟩
  · obtain ⟨document, document', payload, payload', same⟩ := told "cat" "\"\x7d\x7d"
    refine ⟨document, document', payload, payload', ?_⟩
    intro equal
    exact absurd (same.mp equal).1 (by decide)

end SearchRequest.Request

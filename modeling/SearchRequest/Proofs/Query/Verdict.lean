import SearchRequest.Proofs.Query.Faults
import SearchRequest.Proofs.Query.Telling

/-!
# The verdict on a query

Whether a query can be sent is decided node by node.  A node is faulty by itself or not, and the
verdict is the error of the first faulty node, from the top down and from left to right.  Only a
text of the caller can be faulty in one encoding and not in the other, so the verdict depends on the
encoding only as far as the query holds such texts.
-/

namespace SearchRequest.Query

/-- A node that keeps a query from being sent in an encoding, with the error that tells why. -/
inductive Faulty (encoding : Encoding) : Query → Error → Prop where
  | noConjunct : Faulty encoding (.allOf []) (.emptyComposite .allOf)
  | noAlternative : Faulty encoding (.anyOf []) (.emptyComposite .anyOf)
  | unset (container : Container) (bound rangeType : String) :
      Faulty encoding (.range container none bound rangeType) (.comparisonUnset container)
  | blank {text : String} (authored : Encoding)
      (blank : ∀ c ∈ text.toList, Text.isBlankChar c = true) :
      Faulty encoding (.verbatim text authored) .blankQuery
  /-- A blank text counts as blank, whatever encoding it is written in. -/
  | foreign {text : String} {authored : Encoding}
      (visible : ∃ c ∈ text.toList, Text.isBlankChar c = false) (other : authored ≠ encoding) :
      Faulty encoding (.verbatim text authored) (.wrongEncoding authored encoding)

def Faultless (encoding : Encoding) (query : Query) : Prop :=
  ∀ node ∈ query.nodes, ∀ error, ¬Faulty encoding node error

/-- The error of the first faulty node on the walk over a query. -/
def FirstFault (encoding : Encoding) (query : Query) (error : Error) : Prop :=
  ∃ before node after, query.nodes = before ++ node :: after ∧ Faulty encoding node error ∧
    ∀ earlier ∈ before, ∀ other, ¬Faulty encoding earlier other

variable {encoding : Encoding}

/-! ## Single nodes -/

theorem ownFault?_verbatim_eq_some_iff {text : String} {authored : Encoding} {error : Error} :
    (Query.verbatim text authored).ownFault? encoding = some error ↔
      Faulty encoding (.verbatim text authored) error := by
  rw [ownFault?]
  by_cases blank : Text.isBlank text = true
  · have all : ∀ c ∈ text.toList, Text.isBlankChar c = true := List.all_eq_true.mp blank
    rw [if_pos blank]
    constructor
    · intro own
      cases own
      exact .blank authored all
    · intro faulty
      cases faulty with
      | blank => rfl
      | foreign visible other =>
          obtain ⟨c, mem, shown⟩ := visible
          rw [all c mem] at shown
          cases shown
  · have visible : ∃ c ∈ text.toList, Text.isBlankChar c = false := by
      simpa [Text.isBlank] using blank
    rw [if_neg blank]
    constructor
    · intro own
      split at own
      · cases own
      · next other =>
          cases own
          exact .foreign visible other
    · intro faulty
      cases faulty with
      | blank _ all => exact absurd (List.all_eq_true.mpr all) blank
      | foreign _ other => exact if_neg other

theorem ownFault?_eq_some_iff {node : Query} {error : Error} :
    node.ownFault? encoding = some error ↔ Faulty encoding node error := by
  constructor
  · intro own
    cases node with
    | verbatim text authored => exact ownFault?_verbatim_eq_some_iff.mp own
    | range container comparison bound rangeType =>
        cases comparison <;> cases own
        exact .unset container bound rangeType
    | allOf queries =>
        cases queries <;> cases own
        exact .noConjunct
    | anyOf queries =>
        cases queries <;> cases own
        exact .noAlternative
    | _ => cases own
  · intro faulty
    cases node with
    | verbatim text authored => exact ownFault?_verbatim_eq_some_iff.mpr faulty
    | _ => cases faulty <;> rfl

theorem ownFault?_eq_none_iff {node : Query} :
    node.ownFault? encoding = none ↔ ∀ error, ¬Faulty encoding node error := by
  simp only [Option.eq_none_iff_forall_ne_some, ne_eq, ownFault?_eq_some_iff]

/-- Only a text of the caller is judged by the encoding. -/
theorem ownFault?_eq_of_kind_ne {node : Query} (named : node.kind ≠ .verbatim)
    (encoding encoding' : Encoding) : node.ownFault? encoding = node.ownFault? encoding' := by
  cases node with
  | verbatim text authored => exact absurd rfl named
  | range container comparison bound rangeType => cases comparison <;> rfl
  | allOf queries => cases queries <;> rfl
  | anyOf queries => cases queries <;> rfl
  | _ => rfl

/-! ## Whole queries -/

theorem fault?_eq_none_iff_faultless {query : Query} :
    query.fault? encoding = none ↔ query.Faultless encoding := by
  simp only [fault?_eq_none_iff, ownFault?_eq_none_iff, Faultless]

theorem fault?_eq_some_iff_firstFault {query : Query} {error : Error} :
    query.fault? encoding = some error ↔ query.FirstFault encoding error := by
  rw [fault?_eq_findSome?, List.findSome?_eq_some_iff]
  simp only [ownFault?_eq_some_iff, ownFault?_eq_none_iff, FirstFault]

theorem exists_encode_eq_ok_iff {query : Query} :
    (∃ text, query.encode encoding = .ok text) ↔ query.Faultless encoding := by
  rw [exists_encode_iff, fault?_eq_none_iff_faultless]

/-- A text in a query that can be sent is written in the encoding of the query. -/
theorem authored_of_fault?_eq_none {query : Query} (sent : query.fault? encoding = none)
    {text : String} {authored : Encoding} (mem : .verbatim text authored ∈ query.nodes) :
    authored = encoding := by
  by_contra other
  have own := fault?_eq_none_iff.mp sent _ mem
  rw [ownFault?, if_neg other] at own
  split at own <;> cases own

theorem fault?_eq_of_verbatimFree {query : Query} (free : query.VerbatimFree)
    (encoding encoding' : Encoding) : query.fault? encoding = query.fault? encoding' := by
  have sameOwn : query.nodes.filterMap (ownFault? encoding) =
      query.nodes.filterMap (ownFault? encoding') := by
    apply List.filterMap_congr
    intro node mem
    exact ownFault?_eq_of_kind_ne (free.kind_ne mem) encoding encoding'
  rw [fault?_eq_findSome?, fault?_eq_findSome?, ← List.head?_filterMap, ← List.head?_filterMap,
    sameOwn]

/-! ## Texts of queries -/

/-- Whatever is no text of the caller begins with a brace or an angle bracket. -/
theorem isBlank_render_of_kind_ne {query : Query} (named : query.kind ≠ .verbatim) :
    Text.isBlank (query.render encoding) = false := by
  cases encoding with
  | json =>
      have brace : Text.isBlank "\x7b" = false := by decide
      obtain ⟨body, tagged⟩ := json_eq_tagged named
      rw [render, tagged, Json.Draft.tagged, Json.Draft.render, Text.isBlank_append,
        Text.isBlank_append, brace]
      rfl
  | xml =>
      have bracket : Text.isBlank "<" = false := by decide
      obtain ⟨attributes, children, element⟩ := xml_eq_element named
      simp only [render, element, Xml.Draft.render, Text.isBlank_append, bracket, Bool.false_and]

theorem isBlank_render {query : Query} (sent : query.fault? encoding = none) :
    Text.isBlank (query.render encoding) = false := by
  by_cases named : query.kind = .verbatim
  · cases query with
    | verbatim text authored =>
        rw [fault?] at sent
        split at sent
        · cases sent
        · next visible => cases encoding <;> exact Bool.eq_false_iff.mpr visible
    | _ => cases named
  · exact isBlank_render_of_kind_ne named

/--
A query is encoded exactly when none of its nodes is faulty, and then as the text that rendering
gives without any check, which is never blank; otherwise the error is that of the first faulty node.
With a text of the caller in it, a query can be encoded in one way at most, with texts for both
encodings in no way, and without such texts there is no difference between the encodings.
-/
theorem encode_reports_first_fault (query : Query) :
    (∀ encoding,
      (query.fault? encoding = none ↔ query.Faultless encoding) ∧
      (∀ error, query.fault? encoding = some error ↔ query.FirstFault encoding error) ∧
      (∀ text, query.encode encoding = .ok text ↔
        query.Faultless encoding ∧ text = query.render encoding) ∧
      (∀ error, query.encode encoding = .error error ↔ query.FirstFault encoding error) ∧
      ∀ text, query.encode encoding = .ok text → Text.isBlank text = false) ∧
    (¬query.VerbatimFree → ∀ encoding encoding' text text', query.encode encoding = .ok text →
      query.encode encoding' = .ok text' → encoding = encoding') ∧
    (∀ text text' authored authored', .verbatim text authored ∈ query.nodes →
      .verbatim text' authored' ∈ query.nodes → authored ≠ authored' →
        ∀ encoding, ∃ error, query.encode encoding = .error error) ∧
    (query.VerbatimFree → ∀ encoding encoding',
      query.fault? encoding = query.fault? encoding') := by
  refine ⟨fun encoding => ⟨?_, ?_, ?_, ?_, ?_⟩, ?_, ?_, ?_⟩
  · exact fault?_eq_none_iff_faultless
  · intro error
    exact fault?_eq_some_iff_firstFault
  · intro text
    rw [encode_eq_ok_iff, fault?_eq_none_iff_faultless]
  · intro error
    rw [encode_eq_error_iff, fault?_eq_some_iff_firstFault]
  · intro text written
    obtain ⟨sent, rfl⟩ := encode_eq_ok_iff.mp written
    exact isBlank_render sent
  · intro withText encoding encoding' text text' written written'
    obtain ⟨node, mem, verbatim⟩ : ∃ node ∈ query.nodes, node.kind = .verbatim := by
      simpa [verbatimFree_iff] using withText
    cases node <;> cases verbatim
    rw [← authored_of_fault?_eq_none (encode_eq_ok_iff.mp written).1 mem,
      ← authored_of_fault?_eq_none (encode_eq_ok_iff.mp written').1 mem]
  · intro text text' authored authored' mem mem' differ encoding
    cases fault : query.fault? encoding with
    | some error => exact ⟨error, encode_eq_error_iff.mpr fault⟩
    | none =>
        refine absurd ?_ differ
        rw [authored_of_fault?_eq_none fault mem, authored_of_fault?_eq_none fault mem']
  · intro free encoding encoding'
    exact fault?_eq_of_verbatimFree free encoding encoding'

def patchworkQuery : Query :=
  .allOf [.negate (.anyOf [.verbatim "<near/>" .xml,
      .range (.property "price") none "1" "xs:int"]),
    .verbatim " " .json, .verbatim "\x7b\x7d" .json]

def markedQuery : Query :=
  .anyOf [.verbatim "<near/>" .xml, .propertyEquals "title" "a < b"]

/--
Of the texts and the comparison in the first query, each encoding objects to another one first, and
mixing texts rules out both.  The second query goes out as XML only.
-/
theorem encode_reports_first_fault_patchworkQuery :
    patchworkQuery.encode .json = .error (.wrongEncoding .xml .json) ∧
      patchworkQuery.encode .xml = .error (.comparisonUnset (.property "price")) ∧
      (∀ encoding, ∃ error, patchworkQuery.encode encoding = .error error) ∧
      (∃ text, markedQuery.encode .xml = .ok text ∧ Text.isBlank text = false) ∧
      (∀ encoding text, markedQuery.encode encoding = .ok text → encoding = .xml) ∧
      (Query.allOf [.anyOf []]).fault? .xml = (Query.allOf [.anyOf []]).fault? .json := by
  obtain ⟨ofEncoding, -, mixed, -⟩ := encode_reports_first_fault patchworkQuery
  obtain ⟨ofMarked, oneWay, -, -⟩ := encode_reports_first_fault markedQuery
  obtain ⟨-, -, -, sameVerdict⟩ := encode_reports_first_fault (.allOf [.anyOf []])
  obtain ⟨-, jsonFirst, -, jsonFault, -⟩ := ofEncoding .json
  obtain ⟨-, xmlFirst, -, xmlFault, -⟩ := ofEncoding .xml
  obtain ⟨sendable, -, asRendered, -, shown⟩ := ofMarked .xml
  have sent : markedQuery.encode .xml = .ok (markedQuery.render .xml) :=
    (asRendered _).mpr ⟨sendable.mp (by decide), rfl⟩
  have withText : ¬markedQuery.VerbatimFree := by
    rw [verbatimFree_iff]
    exact fun free => free (.verbatim "<near/>" .xml) (by decide) rfl
  refine ⟨?_, ?_, ?_, ⟨_, sent, shown _ sent⟩, ?_, ?_⟩
  · exact (jsonFault _).mpr ((jsonFirst _).mp rfl)
  · exact (xmlFault _).mpr ((xmlFirst _).mp rfl)
  · exact mixed "<near/>" "\x7b\x7d" .xml .json (by decide) (by decide) nofun
  · exact fun encoding text written => oneWay withText encoding .xml text _ written sent
  · exact sameVerdict (verbatimFree_iff.mpr (by decide)) .xml .json

end SearchRequest.Query

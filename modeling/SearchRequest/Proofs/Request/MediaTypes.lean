import SearchRequest.Request

/-!
# Settling the media types of a request

The three steps that settle the media types feed each other, but what they lead to can be
said at once for each document: its own media type if it has one, else that of the other
document, else JSON.  A payload needs the two to be the same known media type, and putting a
request together a second time finds nothing left to settle.
-/

namespace SearchRequest

theorem Encoding.mediaType_injective {encoding encoding' : Encoding}
    (same : encoding.mediaType = encoding'.mediaType) : encoding = encoding' := by
  have found := (ofMediaType?_eq_some_iff encoding.mediaType encoding').mpr same
  rw [(ofMediaType?_eq_some_iff encoding.mediaType encoding).mpr rfl] at found
  exact Option.some.inj found

theorem Encoding.mediaType_ne_empty (encoding : Encoding) : encoding.mediaType ≠ "" := by
  cases encoding <;> decide

/-- A document is in an encoding if its media type is the one of that encoding. -/
theorem Document.encoding?_eq_some_iff {document : Document} {encoding : Encoding} :
    document.encoding? = some encoding ↔ document.mediaType = encoding.mediaType :=
  Encoding.ofMediaType?_eq_some_iff document.mediaType encoding

namespace Request

/-! ## The settled media types -/

/-- The media type of a document beside another one: its own, else the other one's, else JSON. -/
def typeBeside (own other : String) : String :=
  if own ≠ "" then own else if other ≠ "" then other else Encoding.json.mediaType

theorem typeBeside_of_ne {own : String} (set : own ≠ "") (other : String) :
    typeBeside own other = own :=
  if_pos set

theorem typeBeside_unset {other : String} (set : other ≠ "") : typeBeside "" other = other := by
  rw [typeBeside, if_neg (fun unset => unset rfl), if_pos set]

theorem typeBeside_ne_empty (own other : String) : typeBeside own other ≠ "" := by
  unfold typeBeside
  split
  · next set => exact set
  split
  · next set => exact set
  · exact Encoding.mediaType_ne_empty .json

def queryType (request : Request) : String :=
  typeBeside request.query.mediaType request.options.mediaType

def optionsType (request : Request) : String :=
  typeBeside request.options.mediaType request.query.mediaType

def withTypes (request : Request) (ofQuery ofOptions : String) : Request :=
  { request with query.mediaType := ofQuery, options.mediaType := ofOptions }

theorem withTypes_self (request : Request) :
    request.withTypes request.query.mediaType request.options.mediaType = request :=
  rfl

theorem envelope_withTypes (request : Request) (ofQuery ofOptions : String)
    (encoding : Encoding) :
    (request.withTypes ofQuery ofOptions).envelope encoding = request.envelope encoding := by
  cases encoding <;> rfl

/-- The three steps one after the other give each document its settled media type. -/
theorem settled_eq_withTypes (request : Request) :
    request.settled = request.withTypes request.queryType request.optionsType := by
  obtain ⟨⟨query, ofQuery⟩, ⟨options, ofOptions⟩, freeText⟩ := request
  by_cases queryUnset : ofQuery = "" <;> by_cases optionsUnset : ofOptions = "" <;>
    simp [settled, optionsFollow, queryFollows, jsonByDefault, withTypes, queryType,
      optionsType, typeBeside, queryUnset, optionsUnset]

/-- Nothing is left to settle in a request whose media types are both set. -/
theorem settled_eq_self {request : Request} (querySet : request.query.mediaType ≠ "")
    (optionsSet : request.options.mediaType ≠ "") : request.settled = request := by
  rw [settled_eq_withTypes, queryType, optionsType, typeBeside_of_ne querySet,
    typeBeside_of_ne optionsSet, withTypes_self]

theorem settled_settled (request : Request) : request.settled.settled = request.settled := by
  rw [settled_eq_withTypes request]
  exact settled_eq_self (typeBeside_ne_empty _ _) (typeBeside_ne_empty _ _)

/-! ## The payload -/

theorem encoding?_eq_some_iff {request : Request} {encoding : Encoding} :
    request.encoding? = some encoding ↔ request.query.mediaType = encoding.mediaType ∧
      request.options.mediaType = encoding.mediaType := by
  rw [← Document.encoding?_eq_some_iff, ← Document.encoding?_eq_some_iff, Request.encoding?]
  cases request.query.encoding? with
  | none => simp
  | some ofQuery =>
      cases request.options.encoding? with
      | none => simp
      | some ofOptions =>
          by_cases same : ofQuery = ofOptions
          · simp [same]
          · simp only [if_neg same, Option.some.injEq, reduceCtorEq, false_iff]
            rintro ⟨rfl, rfl⟩
            exact same rfl

def SettlesOn (request : Request) (encoding : Encoding) : Prop :=
  request.queryType = encoding.mediaType ∧ request.optionsType = encoding.mediaType

theorem encoding?_settled_eq_some_iff {request : Request} {encoding : Encoding} :
    request.settled.encoding? = some encoding ↔ request.SettlesOn encoding := by
  rw [settled_eq_withTypes, encoding?_eq_some_iff]
  rfl

/-- A request whose media types settle on an encoding has its envelope in that encoding. -/
theorem SettlesOn.payload_eq_ok {request : Request} {encoding : Encoding}
    (settles : request.SettlesOn encoding) :
    request.payload.1 = .ok (.encoded encoding (request.envelope encoding)) := by
  simp only [payload, assemble, encoding?_settled_eq_some_iff.mpr settles]
  rw [settled_eq_withTypes, envelope_withTypes]

/-- A request whose media types settle on no encoding fails with the settled media types. -/
theorem payload_eq_error {request : Request} (unsettled : ∀ encoding, ¬request.SettlesOn encoding) :
    request.payload.1 = .error (.mediaTypesDiffer request.queryType request.optionsType) := by
  have unknown : request.settled.encoding? = none := by
    rw [Option.eq_none_iff_forall_ne_some]
    intro encoding found
    exact unsettled encoding (encoding?_settled_eq_some_iff.mp found)
  rw [payload, assemble, unknown, settled_eq_withTypes]
  rfl

theorem payload_eq_ok_iff {request : Request} {document : Document} :
    request.payload.1 = .ok document ↔ ∃ encoding, request.SettlesOn encoding ∧
      document = ⟨request.envelope encoding, request.queryType⟩ := by
  by_cases settles : ∃ encoding, request.SettlesOn encoding
  · obtain ⟨encoding, settles⟩ := settles
    rw [settles.payload_eq_ok, Except.ok.injEq, eq_comm, Document.encoded, ← settles.1]
    constructor
    · intro written
      exact ⟨encoding, settles, written⟩
    · rintro ⟨encoding', settles', written⟩
      rwa [Encoding.mediaType_injective (settles.1.symm.trans settles'.1)]
  · rw [payload_eq_error (not_exists.mp settles)]
    constructor
    · intro impossible
      cases impossible
    · rintro ⟨encoding, found, -⟩
      exact absurd ⟨encoding, found⟩ settles

theorem payload_eq_error_iff {request : Request} {failure : Error} :
    request.payload.1 = .error failure ↔ (∀ encoding, ¬request.SettlesOn encoding) ∧
      failure = .mediaTypesDiffer request.queryType request.optionsType := by
  by_cases settles : ∃ encoding, request.SettlesOn encoding
  · obtain ⟨encoding, settles⟩ := settles
    rw [settles.payload_eq_ok]
    constructor
    · intro impossible
      cases impossible
    · rintro ⟨unsettled, -⟩
      exact absurd settles (unsettled encoding)
  · have unsettled := not_exists.mp settles
    rw [payload_eq_error unsettled, Except.error.injEq, eq_comm]
    exact ⟨fun same => ⟨unsettled, same⟩, And.right⟩

theorem settlesOn_iff_of_query_unset {request : Request} (unset : request.query.mediaType = "")
    (set : request.options.mediaType ≠ "") {encoding : Encoding} :
    request.SettlesOn encoding ↔ request.options.encoding? = some encoding := by
  rw [Document.encoding?_eq_some_iff, SettlesOn, queryType, optionsType, unset,
    typeBeside_unset set, typeBeside_of_ne set, and_self]

theorem settlesOn_iff_of_options_unset {request : Request}
    (unset : request.options.mediaType = "") (set : request.query.mediaType ≠ "")
    {encoding : Encoding} :
    request.SettlesOn encoding ↔ request.query.encoding? = some encoding := by
  rw [Document.encoding?_eq_some_iff, SettlesOn, queryType, optionsType, unset,
    typeBeside_unset set, typeBeside_of_ne set, and_self]

theorem settlesOn_json_of_unset {request : Request} (queryUnset : request.query.mediaType = "")
    (optionsUnset : request.options.mediaType = "") : request.SettlesOn .json := by
  rw [SettlesOn, queryType, optionsType, queryUnset, optionsUnset]
  exact ⟨rfl, rfl⟩

/-- What a failure leaves behind: only an unset media type beside an unknown one has changed. -/
theorem settled_of_unsettled {request : Request}
    (unsettled : ∀ encoding, ¬request.SettlesOn encoding) :
    (request.query.mediaType ≠ "" ∧ request.options.mediaType ≠ "" ∧
      request.settled = request) ∨
    (request.query.mediaType = "" ∧ request.options.mediaType ≠ "" ∧
      request.options.encoding? = none ∧
      request.settled = { request with query.mediaType := request.options.mediaType }) ∨
    (request.options.mediaType = "" ∧ request.query.mediaType ≠ "" ∧
      request.query.encoding? = none ∧
      request.settled = { request with options.mediaType := request.query.mediaType }) := by
  by_cases queryUnset : request.query.mediaType = "" <;>
    by_cases optionsUnset : request.options.mediaType = ""
  · exact absurd (settlesOn_json_of_unset queryUnset optionsUnset) (unsettled .json)
  · refine Or.inr (Or.inl ⟨queryUnset, optionsUnset, ?_, ?_⟩)
    · simpa only [Option.eq_none_iff_forall_ne_some,
        settlesOn_iff_of_query_unset queryUnset optionsUnset] using unsettled
    · rw [settled_eq_withTypes, queryType, optionsType, queryUnset,
        typeBeside_unset optionsUnset, typeBeside_of_ne optionsUnset]
      rfl
  · refine Or.inr (Or.inr ⟨optionsUnset, queryUnset, ?_, ?_⟩)
    · simpa only [Option.eq_none_iff_forall_ne_some,
        settlesOn_iff_of_options_unset optionsUnset queryUnset] using unsettled
    · rw [settled_eq_withTypes, queryType, optionsType, optionsUnset,
        typeBeside_unset queryUnset, typeBeside_of_ne queryUnset]
      rfl
  · exact Or.inl ⟨queryUnset, optionsUnset, settled_eq_self queryUnset optionsUnset⟩

/--
What putting a request together gives and what it leaves behind.  The contents and the free
text stay, and each media type is settled.  There is a payload exactly if both settle on one
encoding; otherwise the failure names the settled media types.  Doing it again gives the same
and changes nothing.  A failure changes the request only where one media type was unset beside
an unknown one, and then only the unset one.
-/
theorem payload_settles (request : Request) :
    request.payload.2 = request.withTypes request.queryType request.optionsType ∧
    (∀ document, request.payload.1 = .ok document ↔
      ∃ encoding, request.SettlesOn encoding ∧
        document = ⟨request.envelope encoding, request.queryType⟩) ∧
    (∀ failure, request.payload.1 = .error failure ↔
      (∀ encoding, ¬request.SettlesOn encoding) ∧
        failure = .mediaTypesDiffer request.queryType request.optionsType) ∧
    request.payload.2.payload = request.payload ∧
    (∀ failure, request.payload.1 = .error failure →
      (request.query.mediaType ≠ "" ∧ request.options.mediaType ≠ "" ∧
        request.payload.2 = request) ∨
      (request.query.mediaType = "" ∧ request.options.mediaType ≠ "" ∧
        request.options.encoding? = none ∧
        request.payload.2 = { request with query.mediaType := request.options.mediaType }) ∨
      (request.options.mediaType = "" ∧ request.query.mediaType ≠ "" ∧
        request.query.encoding? = none ∧
        request.payload.2 =
          { request with options.mediaType := request.query.mediaType })) := by
  refine ⟨settled_eq_withTypes request, fun _ => payload_eq_ok_iff,
    fun _ => payload_eq_error_iff, ?_, ?_⟩
  · simp only [payload, settled_settled]
  · intro failure failed
    exact settled_of_unsettled (payload_eq_error_iff.mp failed).1

def plainRequest : Request where
  query := ⟨"A", "text/plain"⟩
  options := ⟨"B", ""⟩
  freeText := "hello"

/-- The request fails twice in the same way; the first time gives the options a media type. -/
theorem payload_settles_plainRequest :
    plainRequest.payload.1 = .error (.mediaTypesDiffer "text/plain" "text/plain") ∧
      plainRequest.payload.2 =
        { plainRequest with options.mediaType := plainRequest.query.mediaType } ∧
      plainRequest.payload.2.payload = plainRequest.payload := by
  obtain ⟨-, -, fails, again, left⟩ := payload_settles plainRequest
  have failed : plainRequest.payload.1 = .error (.mediaTypesDiffer "text/plain" "text/plain") := by
    refine (fails _).mpr ⟨?_, rfl⟩
    rintro (_ | _) ⟨known, -⟩ <;> revert known <;> decide
  refine ⟨failed, ?_, again⟩
  rcases left _ failed with ⟨-, set, -⟩ | ⟨unset, -⟩ | ⟨-, -, -, changed⟩
  · exact absurd rfl set
  · exact absurd unset (by decide)
  · exact changed

end Request

end SearchRequest

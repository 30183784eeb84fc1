import SearchRequest.Proofs.Request.MediaTypes

/-!
# What an earlier payload leaves behind

Putting a request together settles its media types for good, so a payload can depend on whether
there was one before.  When one of the two documents is replaced in between, only the other one
can carry anything over: nothing where its media type was set from the start, and otherwise the
media type that it took from the document that is gone.
-/

namespace SearchRequest.Request

/-! ## The two documents -/

inductive Part where
  | query
  | options
  deriving DecidableEq, Repr

namespace Part

def other : Part → Part
  | .query => .options
  | .options => .query

@[simp]
theorem other_other (part : Part) : part.other.other = part := by
  cases part <;> rfl

theorem eq_or_eq_other (part place : Part) : place = part ∨ place = part.other := by
  cases part <;> cases place <;> simp [other]

end Part

def document (request : Request) : Part → Document
  | .query => request.query
  | .options => request.options

def setDocument (request : Request) (part : Part) (document : Document) : Request :=
  match part with
  | .query => request.setQuery document
  | .options => request.setOptions document

section Documents

variable (request : Request) (part : Part) (document : Document)

@[simp]
theorem document_setDocument_self : (request.setDocument part document).document part = document := by
  cases part <;> rfl

@[simp]
theorem document_setDocument_other :
    (request.setDocument part document).document part.other = request.document part.other := by
  cases part <;> rfl

@[simp]
theorem freeText_setDocument : (request.setDocument part document).freeText = request.freeText := by
  cases part <;> rfl

/-- A document is settled by its own media type and the one of the other document. -/
theorem document_settled :
    request.settled.document part = ⟨(request.document part).content,
      typeBeside (request.document part).mediaType (request.document part.other).mediaType⟩ := by
  rw [settled_eq_withTypes]
  cases part <;> rfl

@[simp]
theorem freeText_settled : request.settled.freeText = request.freeText := by
  rw [settled_eq_withTypes]
  rfl

theorem settlesOn_iff_at {encoding : Encoding} :
    request.SettlesOn encoding ↔
      typeBeside (request.document part).mediaType (request.document part.other).mediaType =
          encoding.mediaType ∧
        typeBeside (request.document part.other).mediaType (request.document part).mediaType =
          encoding.mediaType := by
  cases part with
  | query => exact Iff.rfl
  | options => exact and_comm

end Documents

/-- A request is known from the documents at both places and the free text. -/
theorem eq_of_documents {request request' : Request}
    (sameDocuments : ∀ part, request.document part = request'.document part)
    (sameText : request.freeText = request'.freeText) : request = request' := by
  obtain ⟨query, options, freeText⟩ := request
  obtain ⟨query', options', freeText'⟩ := request'
  obtain rfl : query = query' := sameDocuments .query
  obtain rfl : options = options' := sameDocuments .options
  obtain rfl : freeText = freeText' := sameText
  rfl

theorem exists_payload_iff {request : Request} :
    (∃ made, request.payload.1 = .ok made) ↔ ∃ encoding, request.SettlesOn encoding := by
  simp only [payload_eq_ok_iff]
  constructor
  · rintro ⟨made, encoding, settles, -⟩
    exact ⟨encoding, settles⟩
  · rintro ⟨encoding, settles⟩
    exact ⟨_, encoding, settles, rfl⟩

/-! ## A document replaced between two payloads -/

/-- The payload of the request with another document at a place. -/
def payloadWith (request : Request) (part : Part) (document : Document) :
    Except Error Document × Request :=
  (request.setDocument part document).payload

/-- The media type that an unset document takes from the document at a place. -/
def typeTaken (request : Request) (part : Part) : String :=
  if (request.document part).mediaType = "" then Encoding.json.mediaType
  else (request.document part).mediaType

variable {request : Request} {part : Part}

theorem typeTaken_ne_empty : request.typeTaken part ≠ "" := by
  unfold typeTaken
  split
  · exact Encoding.mediaType_ne_empty .json
  · next set => exact set

/-- Beside a document with a media type of its own, settling beforehand has no effect. -/
theorem settled_setDocument_settled (set : (request.document part.other).mediaType ≠ "")
    (document : Document) :
    (request.settled.setDocument part document).settled =
      (request.setDocument part document).settled := by
  refine eq_of_documents ?_ (by simp)
  intro place
  rcases part.eq_or_eq_other place with rfl | rfl <;>
    simp only [document_settled, document_setDocument_self, document_setDocument_other,
      Part.other_other, typeBeside_of_ne set]

/-- An unset document is settled by what stands at the other place. -/
theorem document_settled_of_unset (unset : (request.document part.other).mediaType = "") :
    request.settled.document part.other =
      ⟨(request.document part.other).content, request.typeTaken part⟩ := by
  rw [document_settled, unset, Part.other_other, typeTaken]
  by_cases partUnset : (request.document part).mediaType = ""
  · rw [if_pos partUnset, partUnset]
    rfl
  · rw [if_neg partUnset, typeBeside_unset partUnset]

/-- Beside a set media type there is a payload if that one is known and the other one agrees. -/
theorem exists_settlesOn_iff_of_set {taken : String} (set : taken ≠ "")
    (other : (request.document part.other).mediaType = taken) :
    (∃ encoding, request.SettlesOn encoding) ↔
      (∃ encoding : Encoding, taken = encoding.mediaType) ∧
        ((request.document part).mediaType = "" ∨ (request.document part).mediaType = taken) := by
  simp only [settlesOn_iff_at request part, other, typeBeside_of_ne set]
  by_cases unset : (request.document part).mediaType = ""
  · simp [unset, typeBeside_unset set]
  · simp only [typeBeside_of_ne unset, unset, false_or]
    constructor
    · rintro ⟨encoding, ofPart, ofOther⟩
      exact ⟨⟨encoding, ofOther⟩, ofPart.trans ofOther.symm⟩
    · rintro ⟨⟨encoding, known⟩, same⟩
      exact ⟨encoding, same.trans known, known⟩

/--
A document is replaced after a payload or without one, and then the request is put together.  If
the other document had a media type, the earlier payload makes no difference, whether it succeeded
or failed.  If it had none, it keeps the one that it took from the document that was replaced, so
now there is a payload exactly if that one is known and the new document agrees with it.
-/
theorem payload_after_payload (request : Request) (part : Part) (document : Document) :
    ((request.document part.other).mediaType ≠ "" →
      request.payload.2.payloadWith part document = request.payloadWith part document) ∧
    ((request.document part.other).mediaType = "" →
      request.payload.2.document part.other =
        ⟨(request.document part.other).content, request.typeTaken part⟩ ∧
      (request.payload.2.payloadWith part document).2.document part.other =
        ⟨(request.document part.other).content, request.typeTaken part⟩ ∧
      ((∃ made, (request.payload.2.payloadWith part document).1 = .ok made) ↔
        (∃ encoding : Encoding, request.typeTaken part = encoding.mediaType) ∧
          (document.mediaType = "" ∨ document.mediaType = request.typeTaken part))) := by
  constructor
  · intro set
    simp only [payloadWith, payload, settled_setDocument_settled set]
  · intro unset
    have left := document_settled_of_unset unset
    have kept : ((request.settled.setDocument part document).document part.other).mediaType =
        request.typeTaken part := by
      rw [document_setDocument_other, left]
    refine ⟨left, ?_, ?_⟩
    · simp only [payloadWith, payload]
      rw [document_settled, kept, typeBeside_of_ne typeTaken_ne_empty, document_setDocument_other,
        left]
    · have settles := exists_settlesOn_iff_of_set typeTaken_ne_empty kept
      rw [document_setDocument_self] at settles
      exact exists_payload_iff.trans settles

def openRequest : Request where
  query := ⟨"<query/>", "application/xml"⟩
  freeText := "hello"

def laterQuery : Document :=
  ⟨"\"query\":\x7b\"queries\":[]\x7d,", "application/json"⟩

/--
The options keep the media type of the query that is gone, so a query in another one fails that
would have been accepted before.  Options replaced beside the query make no such difference.
-/
theorem payload_after_payload_openRequest :
    (openRequest.document (Part.other .query)).mediaType = "" ∧
    (openRequest.payload.2.payloadWith .query laterQuery).2.document .options =
      ⟨"", "application/xml"⟩ ∧
    (¬∃ made, (openRequest.payload.2.payloadWith .query laterQuery).1 = .ok made) ∧
    (∃ made, (openRequest.payloadWith .query laterQuery).1 = .ok made) ∧
    (openRequest.document (Part.other .options)).mediaType ≠ "" ∧
    openRequest.payload.2.payloadWith .options laterQuery =
      openRequest.payloadWith .options laterQuery := by
  have unset : (openRequest.document (Part.other .query)).mediaType = "" := rfl
  have set : (openRequest.document (Part.other .options)).mediaType ≠ "" := by decide
  obtain ⟨-, kept, succeeds⟩ := (payload_after_payload openRequest .query laterQuery).2 unset
  refine ⟨unset, kept, ?_, ⟨_, rfl⟩, set,
    (payload_after_payload openRequest .options laterQuery).1 set⟩
  rw [succeeds]
  rintro ⟨-, agrees⟩
  exact absurd agrees (by decide)

end SearchRequest.Request

import SearchRequest.Json.Basic
import SearchRequest.Query.Basic
import SearchRequest.Stored.Container

/-!
# Stored queries

The stored form of a query is an object whose only key names the constructor.  Every
query has a stored form, faults or not, and each level of the tree opens a fixed number
of brackets.
-/

namespace SearchRequest

open Json (Draft Spelling)

def Encoding.ofStored? (room : Nat) (spelling : Spelling) : Option Encoding :=
  (Stored.name? room spelling).bind Encoding.ofKey?

/-- The comparison of a stored token, exactly as it is written; one may be unset. -/
def Comparison.ofStored? (room : Nat) (spelling : Spelling) : Option (Option Comparison) :=
  (Stored.name? room spelling).bind fun token =>
    if token = unsetToken then some none
    else (all.find? (·.token = token)).map some

namespace Query

mutual

def stored : Query → Draft
  | .verbatim text encoding =>
      .tagged "generic" (.object [("query", .text text), ("format", .text encoding.key)])
  | .propertyEquals property value =>
      .tagged "property_value" (.object [("property", .text property), ("value", .text value)])
  | .elementEquals element value =>
      .tagged "element_value" (.object [("element", element.stored), ("value", .text value)])
  | .range container comparison bound rangeType =>
      .tagged "range" (.object
        [("container", container.stored),
          ("operation", .text (Comparison.tokenOrUnset comparison)),
          ("value", .text bound), ("range_type", .text rangeType)])
  | .allOf queries => .tagged "and" (.tagged "queries" (.array (storedAll queries)))
  | .anyOf queries => .tagged "or" (.tagged "queries" (.array (storedAll queries)))
  | .negate query => .tagged "not" (.tagged "query" query.stored)
  | .inCollections names => .tagged "collection_set" (.tagged "uris" (.texts names))
  | .atUris uris => .tagged "document_set" (.tagged "uris" (.texts uris))

def storedAll : List Query → List Draft
  | [] => []
  | query :: rest => query.stored :: storedAll rest

end

def leafOfStored? (room : Nat) (tag : String) (body : Spelling) : Option Query :=
  if tag = "generic" then
    match Stored.fields? ["query", "format"] body with
    | some [text, encoding] => do
        return .verbatim (← Stored.textField? text)
          (← Stored.fieldOr? .json (Encoding.ofStored? room) encoding)
    | _ => none
  else if tag = "property_value" then
    match Stored.fields? ["property", "value"] body with
    | some [property, value] => do
        return .propertyEquals (← Stored.textField? property) (← Stored.textField? value)
    | _ => none
  else if tag = "element_value" then
    match Stored.fields? ["element", "value"] body with
    | some [element, value] => do
        return .elementEquals (← element.bind (QualifiedName.ofStored? room))
          (← Stored.textField? value)
    | _ => none
  else if tag = "range" then
    match Stored.fields? ["container", "operation", "value", "range_type"] body with
    | some [container, comparison, bound, rangeType] => do
        return .range (← container.bind (Container.ofStored? room))
          (← comparison.bind (Comparison.ofStored? room)) (← Stored.textField? bound)
          (← Stored.fieldOr? defaultRangeType Stored.text? rangeType)
    | _ => none
  else if tag = "collection_set" then
    match Stored.fields? ["uris"] body with
    | some [names] => (names.bind (Stored.texts? room)).map .inCollections
    | _ => none
  else if tag = "document_set" then
    match Stored.fields? ["uris"] body with
    | some [uris] => (uris.bind (Stored.texts? room)).map .atUris
    | _ => none
  else none

/-- The query of a stored form of which at most `room` brackets are open at once. -/
def ofStored? : Nat → Spelling → Option Query
  | room + 2, .object [(some tag, body)] =>
      if tag = "and" ∨ tag = "or" then
        match room, Stored.fields? ["queries"] body with
        | inner + 1, some [some (.array items)] =>
            (items.mapM (ofStored? inner)).map (if tag = "and" then .allOf else .anyOf)
        | _, _ => none
      else if tag = "not" then
        match Stored.fields? ["query"] body with
        | some [some query] => (ofStored? room query).map .negate
        | _ => none
      else leafOfStored? room tag body
  | _, _ => none

def ofStoredText? (text : String) : Option Query :=
  (Spelling.ofText? text).bind (ofStored? Json.maxOpen)

end Query

end SearchRequest

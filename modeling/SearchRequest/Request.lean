import SearchRequest.Definition

/-!
# Requests

A request carries a query fragment, an options document and free text.  Before it is put
together its media types are settled: an unset one follows the other, and two unset ones
become JSON.  The two must then name the same encoding.  The parts go into the envelope
as they stand, so free text is escaped beforehand where it needs to be.
-/

namespace SearchRequest

structure Request where
  query : Document := {}
  options : Document := {}
  freeText : String := ""
  deriving DecidableEq, Repr, Inhabited

namespace Request

def setQuery (request : Request) (document : Document) : Request :=
  { request with query := document }

def setOptions (request : Request) (document : Document) : Request :=
  { request with options := document }

def setFreeText (request : Request) (text : String) : Request :=
  { request with freeText := text }

def escape (encoding : Encoding) (text : String) : String :=
  match encoding with
  | .json => Json.escape text
  | .xml => Xml.escape text

/-- Unset options take the media type of the query. -/
def optionsFollow (request : Request) : Request :=
  if request.options.mediaType = "" then
    { request with options.mediaType := request.query.mediaType }
  else request

/-- An unset query takes the media type of the options. -/
def queryFollows (request : Request) : Request :=
  if request.query.mediaType = "" then
    { request with query.mediaType := request.options.mediaType }
  else request

/-- Where nothing is set, both are JSON. -/
def jsonByDefault (request : Request) : Request :=
  if request.query.mediaType = "" ∧ request.options.mediaType = "" then
    { request with
      query.mediaType := Encoding.json.mediaType
      options.mediaType := Encoding.json.mediaType }
  else request

def settled (request : Request) : Request :=
  request.optionsFollow.queryFollows.jsonByDefault

/-- The encoding that the query and the options share. -/
def encoding? (request : Request) : Option Encoding :=
  match request.query.encoding?, request.options.encoding? with
  | some ofQuery, some ofOptions => if ofQuery = ofOptions then some ofQuery else none
  | _, _ => none

def envelope (request : Request) : Encoding → String
  | .json =>
      "\x7b\"search\": \x7b" ++ request.query.content ++ request.options.content ++
        "\"qtext\": \"" ++ request.freeText ++ "\"\x7d\x7d"
  | .xml =>
      "<search>" ++ request.query.content ++ request.options.content ++
        "<qtext>" ++ request.freeText ++ "</qtext></search>"

def assemble (request : Request) : Except Error Document :=
  match request.encoding? with
  | some encoding => .ok (.encoded encoding (request.envelope encoding))
  | none =>
      .error (.mediaTypesDiffer request.query.mediaType request.options.mediaType)

/-- The document of a request, and the request with the media types that were settled. -/
def payload (request : Request) : Except Error Document × Request :=
  (request.settled.assemble, request.settled)

end Request

end SearchRequest

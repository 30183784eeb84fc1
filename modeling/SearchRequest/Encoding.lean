/-!
# Encodings

A query, an options document and a payload are each written either as JSON or as XML.
The encoding of a document is known by its media type, of which only the two exact ones
count.
-/

namespace SearchRequest

inductive Encoding where
  | json
  | xml
  deriving DecidableEq, Repr, Inhabited

namespace Encoding

def mediaType : Encoding → String
  | .json => "application/json"
  | .xml => "application/xml"

/-- The encoding that a media type names exactly. -/
def ofMediaType? (mediaType : String) : Option Encoding :=
  if mediaType = json.mediaType then some .json
  else if mediaType = xml.mediaType then some .xml
  else none

/-- The short name that stored forms use. -/
def key : Encoding → String
  | .json => "json"
  | .xml => "xml"

/-- The name that messages use. -/
def title : Encoding → String
  | .json => "Json"
  | .xml => "Xml"

def ofKey? (key : String) : Option Encoding :=
  [json, xml].find? (·.key = key)

/-- Only the media type of an encoding leads back to it. -/
theorem ofMediaType?_eq_some_iff (mediaType : String) (encoding : Encoding) :
    ofMediaType? mediaType = some encoding ↔ mediaType = encoding.mediaType := by
  by_cases isJson : mediaType = json.mediaType
  · subst isJson
    cases encoding <;> simp [ofMediaType?, Encoding.mediaType]
  · by_cases isXml : mediaType = xml.mediaType
    · subst isXml
      cases encoding <;> simp [ofMediaType?, Encoding.mediaType]
    · cases encoding <;> simp [ofMediaType?, isJson, isXml]

end Encoding

end SearchRequest

import SearchRequest.Json.Basic
import SearchRequest.Query.Basic
import SearchRequest.Text.Diagnostic

/-!
# Errors

An error names its cause; the wording of the message is decided in one place.  Errors
fall into those of building or writing a query, those of reading a written query or
settings, and the one of putting a request together.
-/

namespace SearchRequest

/-- What is wrong with the text of a written query. -/
inductive ClauseError where
  | notJson
  | queryNotObject
  /-- An object that should name one kind of query has none or several keys. -/
  | keys (found : List String)
  | emptyDocument
  | missingMember (owner member : String)
  | clausesNotList
  | bodyNotObject (kind : Query.Kind)
  | propertyNotText (kind : Query.Kind)
  | elementUnnamed (kind : Query.Kind)
  | noContainer (kind : Query.Kind)
  | notScalar (found : Json)

inductive Error where
  | unknownReference (name : String)
  | duplicateReference (name : String)
  /-- A query that combines others has none to combine. -/
  | emptyComposite (kind : Query.Kind)
  /-- A verbatim query was written for another encoding than the requested one. -/
  | wrongEncoding (authored requested : Encoding)
  | unknownComparison (token : String)
  /-- A range query in the tree compares with nothing. -/
  | comparisonUnset (container : Container)
  /-- A range query on a reference was asked for without a comparison. -/
  | comparisonMissing (reference : String)
  | blankQuery
  /-- Query and options of a request are not in one known encoding. -/
  | mediaTypesDiffer (query options : String)
  | clause (cause : ClauseError)
  | settingsMalformed

def Container.diagnostic : Container → String
  | .property name => "JsonProperty(" ++ Text.diagnostic name ++ ")"
  | .element name =>
      let space :=
        match name.space with
        | some space => "Some(" ++ Text.diagnostic space ++ ")"
        | none => "None"
      "Element(ElementName \x7b name: " ++ Text.diagnostic name.name ++ ", ns: " ++ space ++
        " \x7d)"

def ClauseError.message : ClauseError → String
  | .notJson => "Invalid JSON"
  | .queryNotObject => "Query must be a JSON object"
  | .keys found =>
      "Query object must have exactly one key. Got keys: " ++ Text.diagnosticList found
  | .emptyDocument => "query document has no queries"
  | .missingMember owner member => owner ++ " must have '" ++ member ++ "'"
  | .clausesNotList => "Clause must be an array or object"
  | .bodyNotObject kind => kind.tag ++ " must be an object"
  | .propertyNotText kind => kind.tag ++ " json-property must be a string"
  | .elementUnnamed kind => kind.tag ++ " element must have a 'name'"
  | .noContainer kind => kind.tag ++ " must specify a json-property or element"
  | .notScalar found => "Expected a string, number or boolean, got " ++ found.compact

namespace Error

def message : Error → String
  | .unknownReference name => "Unknown container reference: " ++ name
  | .duplicateReference name => "Container reference already registered: " ++ name
  | .emptyComposite kind =>
      "Empty composite query: " ++ kind.tag ++ " requires at least one child query"
  | .wrongEncoding authored requested =>
      "Unsupported mode: generic " ++ authored.title ++
        " query text cannot be written as " ++ requested.title
  | .unknownComparison token => "Invalid range operation: " ++ token
  | .comparisonUnset container =>
      "Invalid range operation: range query on " ++ container.diagnostic ++
        " has no comparison set"
  | .comparisonMissing reference =>
      "Invalid range operation: range query on '" ++ reference ++ "' needs a comparison"
  | .blankQuery => "Invalid query: generic query text is empty"
  | .mediaTypesDiffer query options =>
      "Format mismatch: query MIME type '" ++ query ++
        "' does not match options MIME type '" ++ options ++ "'"
  | .clause cause => "Parse error: " ++ cause.message
  | .settingsMalformed => "Configuration error: Invalid builder config"

/-- Whether the error arose while a query was built or written. -/
def isConstruction : Error → Bool
  | .unknownReference _ | .duplicateReference _ | .emptyComposite _ | .wrongEncoding _ _
  | .unknownComparison _ | .comparisonUnset _ | .comparisonMissing _ | .blankQuery => true
  | .mediaTypesDiffer _ _ | .clause _ | .settingsMalformed => false

end Error

end SearchRequest

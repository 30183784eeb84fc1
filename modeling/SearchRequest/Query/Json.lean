import SearchRequest.Json.Draft
import SearchRequest.Query.Basic

/-!
# Queries as JSON

The JSON form of a query is an object with one member, named by the kind of the query.
Values and sets are written as arrays even when they hold one text, and every element is
written with its namespace.
-/

namespace SearchRequest

open Json (Draft)

def Container.json : Container → String × Draft
  | .property name => ("json-property", .text name)
  | .element name =>
      ("element", .object [("name", .text name.name), ("ns", .text name.writtenSpace)])

namespace Query

def valueJson (container : Container) (value : String) : Draft :=
  .tagged Kind.value.tag (.object
    [("type", .text "string"), container.json, ("text", .texts [value])])

def compositeJson (kind : Kind) (queries : List Draft) : Draft :=
  .tagged kind.tag (.tagged "queries" (.array queries))

def setJson (kind : Kind) (uris : List String) : Draft :=
  .tagged kind.tag (.tagged "uri" (.texts uris))

mutual

def json : Query → Draft
  | .verbatim text _ => .verbatim text
  | .propertyEquals property value => valueJson (.property property) value
  | .elementEquals element value => valueJson (.element element) value
  | .range container comparison bound rangeType =>
      .tagged Kind.range.tag (.object
        [("type", .text rangeType), container.json, ("value", .texts [bound]),
          ("range-operator", .text (Comparison.tokenOrUnset comparison))])
  | .allOf queries => compositeJson .allOf (jsonAll queries)
  | .anyOf queries => compositeJson .anyOf (jsonAll queries)
  | .negate query => .tagged Kind.negate.tag query.json
  | .inCollections names => setJson .collections names
  | .atUris uris => setJson .documents uris

def jsonAll : List Query → List Draft
  | [] => []
  | query :: rest => query.json :: jsonAll rest

end

theorem jsonAll_eq_map (queries : List Query) : jsonAll queries = queries.map json := by
  induction queries with
  | nil => rfl
  | cons query rest ih => simp [jsonAll, ih]

end Query

end SearchRequest

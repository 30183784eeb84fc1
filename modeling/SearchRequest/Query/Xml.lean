import SearchRequest.Query.Basic
import SearchRequest.Xml.Draft

/-!
# Queries as XML

The XML form of a query is an element named by the kind of the query.  What JSON writes
as an array is a sequence of elements here.
-/

namespace SearchRequest

open Xml (Draft)

def Container.xml : Container → Draft
  | .property name => .leaf "json-property" name
  | .element name => .hollow "element" [("ns", name.writtenSpace), ("name", name.name)]

namespace Query

def valueXml (container : Container) (value : String) : Draft :=
  .element Kind.value.tag [("type", "string")] [container.xml, .leaf "text" value]

def setXml (kind : Kind) (uris : List String) : Draft :=
  .element kind.tag [] (uris.map (Draft.leaf "uri"))

mutual

def xml : Query → Draft
  | .verbatim text _ => .verbatim text
  | .propertyEquals property value => valueXml (.property property) value
  | .elementEquals element value => valueXml (.element element) value
  | .range container comparison bound rangeType =>
      .element Kind.range.tag [("type", rangeType)]
        [container.xml, .leaf "value" bound,
          .leaf "range-operator" (Comparison.tokenOrUnset comparison)]
  | .allOf queries => .element Kind.allOf.tag [] (xmlAll queries)
  | .anyOf queries => .element Kind.anyOf.tag [] (xmlAll queries)
  | .negate query => .element Kind.negate.tag [] [query.xml]
  | .inCollections names => setXml .collections names
  | .atUris uris => setXml .documents uris

def xmlAll : List Query → List Draft
  | [] => []
  | query :: rest => query.xml :: xmlAll rest

end

theorem xmlAll_eq_map (queries : List Query) : xmlAll queries = queries.map xml := by
  induction queries with
  | nil => rfl
  | cons query rest ih => simp [xmlAll, ih]

end Query

end SearchRequest

import SearchRequest.Query.Basic

/-!
# The default namespace

The default namespace reaches every unqualified element of a query, however deep it
stands.  Nothing else in the tree changes.
-/

namespace SearchRequest.Query

mutual

def qualify (space : String) : Query → Query
  | .verbatim text encoding => .verbatim text encoding
  | .propertyEquals property value => .propertyEquals property value
  | .elementEquals element value => .elementEquals (element.qualify space) value
  | .range container comparison bound rangeType =>
      .range (container.qualify space) comparison bound rangeType
  | .allOf queries => .allOf (qualifyAll space queries)
  | .anyOf queries => .anyOf (qualifyAll space queries)
  | .negate query => .negate (query.qualify space)
  | .inCollections names => .inCollections names
  | .atUris uris => .atUris uris

def qualifyAll (space : String) : List Query → List Query
  | [] => []
  | query :: rest => query.qualify space :: qualifyAll space rest

end

theorem qualifyAll_eq_map (space : String) (queries : List Query) :
    qualifyAll space queries = queries.map (qualify space) := by
  induction queries with
  | nil => rfl
  | cons query rest ih => simp [qualifyAll, ih]

end SearchRequest.Query

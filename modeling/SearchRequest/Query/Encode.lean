import SearchRequest.Error
import SearchRequest.Query.Json
import SearchRequest.Query.Xml
import SearchRequest.Text.Blank

/-!
# Encoding queries

Any query can be rendered, but not every query may be sent: a combination of no queries,
a range query without a comparison and a verbatim text that is blank or belongs to the
other encoding are faults.  Encoding reports the first fault on the way down and from
left to right, and renders a query without faults.
-/

namespace SearchRequest.Query

/-- The text of a query, faults or not. -/
def render (encoding : Encoding) (query : Query) : String :=
  match encoding with
  | .json => query.json.render
  | .xml => query.xml.render

mutual

/-- The first fault that keeps a query from being sent. -/
def fault? (encoding : Encoding) : Query → Option Error
  | .verbatim text authored =>
      if Text.isBlank text then some .blankQuery
      else if authored = encoding then none
      else some (.wrongEncoding authored encoding)
  | .range container none _ _ => some (.comparisonUnset container)
  | .allOf queries =>
      if queries.isEmpty then some (.emptyComposite .allOf)
      else firstFault? encoding queries
  | .anyOf queries =>
      if queries.isEmpty then some (.emptyComposite .anyOf)
      else firstFault? encoding queries
  | .negate query => query.fault? encoding
  | .propertyEquals _ _ | .elementEquals _ _ | .range _ (some _) _ _ | .inCollections _
  | .atUris _ => none

def firstFault? (encoding : Encoding) : List Query → Option Error
  | [] => none
  | query :: rest => (query.fault? encoding).or (firstFault? encoding rest)

end

theorem firstFault?_eq_findSome? (encoding : Encoding) (queries : List Query) :
    firstFault? encoding queries = queries.findSome? (fault? encoding) := by
  induction queries with
  | nil => rfl
  | cons query rest ih =>
      cases h : query.fault? encoding <;> simp [firstFault?, List.findSome?, h, ih]

def encode (encoding : Encoding) (query : Query) : Except Error String :=
  match query.fault? encoding with
  | some fault => .error fault
  | none => .ok (query.render encoding)

end SearchRequest.Query

import SearchRequest.Comparison
import SearchRequest.Container
import SearchRequest.Encoding

/-!
# Queries

A query is a tree.  Its leaves compare the content of a container, ask for membership in
collections, ask for one of several documents, or hold a text that the caller wrote; its
inner nodes combine queries.  Two queries are equal when they are the same tree, and
this is decided by walking over both.
-/

namespace SearchRequest

inductive Query where
  /-- A query that the caller wrote in one of the encodings. -/
  | verbatim (text : String) (encoding : Encoding)
  | propertyEquals (property value : String)
  | elementEquals (element : QualifiedName) (value : String)
  /-- The content of a container compares with a bound, in a range index of some type. -/
  | range (container : Container) (comparison : Option Comparison) (bound rangeType : String)
  | allOf (queries : List Query)
  | anyOf (queries : List Query)
  | negate (query : Query)
  | inCollections (names : List String)
  | atUris (uris : List String)

inductive Query.Kind where
  | verbatim
  | value
  | range
  | allOf
  | anyOf
  | negate
  | collections
  | documents
  deriving DecidableEq, Repr

namespace Query

namespace Kind

/-- The name of a kind in the query grammar; a verbatim query goes by a name of its own. -/
def tag : Kind → String
  | .verbatim => "generic"
  | .value => "value-query"
  | .range => "range-query"
  | .allOf => "and-query"
  | .anyOf => "or-query"
  | .negate => "not-query"
  | .collections => "collection-query"
  | .documents => "document-query"

def named : List Kind := [value, range, allOf, anyOf, negate, collections, documents]

/-- The kind that a written query names; a name of no kind marks a verbatim query. -/
def ofTag (tag : String) : Kind :=
  (named.find? (·.tag = tag)).getD verbatim

end Kind

instance : Inhabited Query := ⟨.allOf []⟩

def kind : Query → Kind
  | .verbatim _ _ => .verbatim
  | .propertyEquals _ _ | .elementEquals _ _ => .value
  | .range _ _ _ _ => .range
  | .allOf _ => .allOf
  | .anyOf _ => .anyOf
  | .negate _ => .negate
  | .inCollections _ => .collections
  | .atUris _ => .documents

def children : Query → List Query
  | .allOf queries | .anyOf queries => queries
  | .negate query => [query]
  | _ => []

/-- The number of parts that a query lists, where it lists any. -/
def listed? : Query → Option Nat
  | .allOf queries | .anyOf queries => some queries.length
  | .inCollections uris | .atUris uris => some uris.length
  | _ => none

def equals (container : Container) (value : String) : Query :=
  match container with
  | .property name => .propertyEquals name value
  | .element name => .elementEquals name value

mutual

def same : Query → Query → Bool
  | .verbatim text encoding, .verbatim text' encoding' => text = text' && encoding = encoding'
  | .propertyEquals property value, .propertyEquals property' value' =>
      property = property' && value = value'
  | .elementEquals element value, .elementEquals element' value' =>
      element = element' && value = value'
  | .range container comparison bound rangeType,
      .range container' comparison' bound' rangeType' =>
      container = container' && comparison = comparison' && bound = bound' &&
        rangeType = rangeType'
  | .allOf queries, .allOf queries' => sameAll queries queries'
  | .anyOf queries, .anyOf queries' => sameAll queries queries'
  | .negate query, .negate query' => same query query'
  | .inCollections names, .inCollections names' => names = names'
  | .atUris uris, .atUris uris' => uris = uris'
  | _, _ => false

def sameAll : List Query → List Query → Bool
  | [], [] => true
  | query :: rest, query' :: rest' => same query query' && sameAll rest rest'
  | _, _ => false

end

mutual

/-- Walking over two queries decides whether they are equal. -/
theorem same_iff : (query query' : Query) → (same query query' = true ↔ query = query')
  | .verbatim _ _, query' => by cases query' <;> simp [same]
  | .propertyEquals _ _, query' => by cases query' <;> simp [same]
  | .elementEquals _ _, query' => by cases query' <;> simp [same]
  | .range _ _ _ _, query' => by cases query' <;> simp [same, and_assoc]
  | .allOf queries, query' => by cases query' <;> simp [same, sameAll_iff queries]
  | .anyOf queries, query' => by cases query' <;> simp [same, sameAll_iff queries]
  | .negate query, query' => by cases query' <;> simp [same, same_iff query]
  | .inCollections _, query' => by cases query' <;> simp [same]
  | .atUris _, query' => by cases query' <;> simp [same]

/-- Walking over two lists of queries decides whether they are equal. -/
theorem sameAll_iff : (queries queries' : List Query) →
    (sameAll queries queries' = true ↔ queries = queries')
  | [], queries' => by cases queries' <;> simp [sameAll]
  | query :: rest, queries' => by
      cases queries' <;> simp [sameAll, same_iff query, sameAll_iff rest]

end

instance : DecidableEq Query := fun query query' =>
  decidable_of_iff (same query query' = true) (same_iff query query')

end Query

end SearchRequest

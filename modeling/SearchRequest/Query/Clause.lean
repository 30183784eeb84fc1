import SearchRequest.Error
import SearchRequest.Reference

/-!
# Clauses of written queries

A clause is one JSON object of a written query, read one level deep.  A clause that
names no other clauses is a query already; otherwise it says which values below it are
clauses in turn and what is to be made of them.  Objects of an unknown kind are kept as
verbatim queries.
-/

namespace SearchRequest

/-- How the queries below a clause are put together. -/
inductive Join where
  /-- A query document: one query stands for itself, several must all match. -/
  | document
  | allOf
  | anyOf
  deriving DecidableEq, Repr

/-- A JSON object of a written query, read one level deep. -/
inductive Clause where
  | leaf (query : Query)
  | negated (body : Json)
  | joined (join : Join) (parts : List Json)

namespace Clause

def fail {α : Type} (cause : ClauseError) : Except Error α :=
  .error (.clause cause)

/-- What a member of an object must be, or the failure that it is missing. -/
def require (owner member : String) (body : Json) : Except Error Json :=
  match body.get? member with
  | some value => .ok value
  | none => fail (.missingMember owner member)

/-- The clauses that a body lists: an array of them, or a single one without the brackets. -/
def list (owner : String) (body : Json) : Except Error (List Json) := do
  match ← require owner "queries" body with
  | .array parts => .ok parts
  | .object members => .ok [.object members]
  | _ => fail .clausesNotList

def scalar : Json → Except Error String
  | .text content => .ok content
  | .number value => .ok value.written
  | .bool value => .ok (if value then "true" else "false")
  | found => fail (.notScalar found)

/-- The texts of an array of scalars, or of a single scalar without the brackets. -/
def scalars : Json → Except Error (List String)
  | .array items => items.mapM scalar
  | single => do return [← scalar single]

/-- The texts of a member, none where the member is missing. -/
def scalarsAt (body : Json) (member : String) : Except Error (List String) :=
  match body.get? member with
  | some value => scalars value
  | none => .ok []

def textAt? (body : Json) (member : String) : Option String :=
  (body.get? member).bind Json.text?

/-- The container that a body names; a property goes before an element. -/
def container (kind : Query.Kind) (body : Json) : Except Error Container :=
  match body.get? "json-property", body.get? "element" with
  | some (.text name), _ => .ok (.property name)
  | some _, _ => fail (.propertyNotText kind)
  | none, some element =>
      match textAt? element "name" with
      | some name => .ok (.element (.inSpace name ((textAt? element "ns").getD "")))
      | none => fail (.elementUnnamed kind)
  | none, none => fail (.noContainer kind)

def requireObject (kind : Query.Kind) : Json → Except Error Unit
  | .object _ => .ok ()
  | _ => fail (.bodyNotObject kind)

/-- One query as it is, several as alternatives; none is a missing member. -/
def alternatives (kind : Query.Kind) (member : String) :
    List Query → Except Error Query
  | [] => fail (.missingMember kind.tag member)
  | [query] => .ok query
  | queries => .ok (.anyOf queries)

def value (body : Json) : Except Error Query := do
  requireObject .value body
  let container ← container .value body
  let texts ← scalarsAt body "text"
  alternatives .value "text" (texts.map (.equals container))

/-- The comparison that a body asks for; without an operator it is equality. -/
def comparison (body : Json) : Except Error Comparison :=
  match textAt? body "range-operator" with
  | some token =>
      match Comparison.ofToken? token with
      | some comparison => .ok comparison
      | none => .error (.unknownComparison token)
  | none => .ok .eq

def range (body : Json) : Except Error Query := do
  requireObject .range body
  let container ← container .range body
  let rangeType := (textAt? body "type").getD defaultRangeType
  let comparison ← comparison body
  let bounds ← scalarsAt body "value"
  alternatives .range "value"
    (bounds.map fun bound => .range container (some comparison) bound rangeType)

def uris (kind : Query.Kind) (body : Json) : Except Error (List String) := do
  scalars (← require kind.tag "uri" body)

/-- The clause of a kind, from its body and the whole object around it. -/
def ofKind (kind : Query.Kind) (body whole : Json) : Except Error Clause :=
  match kind with
  | .allOf => (list kind.tag body).map (.joined .allOf)
  | .anyOf => (list kind.tag body).map (.joined .anyOf)
  | .negate => .ok (.negated body)
  | .value => (value body).map .leaf
  | .range => (range body).map .leaf
  | .collections => (uris kind body).map fun names => .leaf (.inCollections names)
  | .documents => (uris kind body).map fun uris => .leaf (.atUris uris)
  | .verbatim => .ok (.leaf (.verbatim whole.compact .json))

/--
The clause of a JSON value.  A `query` member makes it a query document whatever else it
holds; otherwise the only member names the kind, and an unknown kind is kept as it is.
-/
def ofJson (json : Json) : Except Error Clause :=
  match json with
  | .object members =>
      match json.get? "query" with
      | some document => (list "query document" document).map (.joined .document)
      | none =>
          match members with
          | [(tag, body)] => ofKind (.ofTag tag) body json
          | _ => fail (.keys (members.map Prod.fst))
  | _ => fail .queryNotObject

end Clause

def Join.assemble (join : Join) (queries : List Query) : Except Error Query :=
  match join, queries with
  | .document, [] => Clause.fail .emptyDocument
  | .document, [query] => .ok query
  | .document, queries => .ok (.allOf queries)
  | .allOf, queries => .ok (.allOf queries)
  | .anyOf, queries => .ok (.anyOf queries)

end SearchRequest

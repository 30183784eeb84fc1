import SearchRequest.Document
import SearchRequest.Query.Combine
import SearchRequest.Query.Encode
import SearchRequest.Query.Qualify
import SearchRequest.Registry
import SearchRequest.Settings

/-!
# Search definitions

A definition holds what the queries of one search share: the mode, the default
namespace, the registered references and the root query.  Queries on named containers
are made from a definition, and it writes its root as a document of its own or as a
fragment of a request.  The default namespace is applied as the root is written, however
late it was set; the stored root never changes.
-/

namespace SearchRequest

def version : String := "0.1.0"

/-- The namespace of the XML query grammar. -/
def searchSpace : String := "http://marklogic.com/appservices/search"

structure Definition where
  mode : Mode := .json
  defaultSpace : String := ""
  registry : Registry := {}
  root : Option Query := none
  deriving Inhabited

namespace Definition

def register (definition : Definition) (reference : Reference) : Except Error Definition :=
  (definition.registry.register reference).map fun registry =>
    { definition with registry := registry }

def registerProperty (definition : Definition) (name property : String) :
    Except Error Definition :=
  definition.register (.ofProperty name property)

def registerElement (definition : Definition) (name element : String) (space : Option String) :
    Except Error Definition :=
  definition.register (.ofElement name element space)

def ofSettings (settings : Settings) : Except Error Definition :=
  settings.references.foldlM register
    { mode := settings.mode, defaultSpace := settings.defaultSpace }

def verbatim (definition : Definition) (text : String) : Query :=
  .verbatim text definition.mode.encoding

/-- The kinds of container that a reference stands for: both in the mode for all. -/
def kinds (definition : Definition) (reference : Reference) : List Container.Kind :=
  match definition.mode with
  | .all => [.property, .element]
  | .json | .xml => [reference.kind]

def valueOn (reference : Reference) (kinds : List Container.Kind) (value : String) :
    Except Error Query :=
  Query.oneOrAny (kinds.map fun kind => .equals (reference.container kind) value)

def rangeOn (reference : Reference) (kinds : List Container.Kind)
    (comparison : Option Comparison) (bound : String) : Except Error Query :=
  if comparison = none then .error (.comparisonMissing reference.name)
  else
    Query.oneOrAny (kinds.map fun kind =>
      .range (reference.container kind) comparison bound reference.effectiveRangeType)

def value (definition : Definition) (name value : String) : Except Error Query := do
  let reference ← definition.registry.resolve name
  valueOn reference (definition.kinds reference) value

def valueAs (definition : Definition) (kind : Container.Kind) (name value : String) :
    Except Error Query := do
  valueOn (← definition.registry.resolve name) [kind] value

def range (definition : Definition) (name : String) (comparison : Option Comparison)
    (bound : String) : Except Error Query := do
  let reference ← definition.registry.resolve name
  rangeOn reference (definition.kinds reference) comparison bound

def rangeAs (definition : Definition) (kind : Container.Kind) (name : String)
    (comparison : Option Comparison) (bound : String) : Except Error Query := do
  rangeOn (← definition.registry.resolve name) [kind] comparison bound

def setMode (definition : Definition) (mode : Mode) : Definition :=
  { definition with mode := mode }

/-- Choose another default namespace; it is applied when the root is written. -/
def setDefaultSpace (definition : Definition) (space : String) : Definition :=
  { definition with defaultSpace := space }

def setRoot (definition : Definition) (root : Query) : Definition :=
  { definition with root := some root }

def clearRoot (definition : Definition) : Definition :=
  { definition with root := none }

def encoding (definition : Definition) : Encoding :=
  definition.mode.encoding

/-- The queries to be written: the root with the default namespace, if there is a root. -/
def written (definition : Definition) : Except Error (List Query) :=
  match definition.root with
  | none => .ok []
  | some root =>
      let query := root.qualify definition.defaultSpace
      match query.fault? definition.encoding with
      | some fault => .error fault
      | none => .ok [query]

def listing (queries : List Query) : Json.Draft :=
  .tagged "queries" (.array (Query.jsonAll queries))

def element (queries : List Query) : Xml.Draft :=
  .element "query" [("xmlns", searchSpace)] (Query.xmlAll queries)

def document (definition : Definition) : Except Error Document :=
  definition.written.map fun queries =>
    .encoded definition.encoding
      (match definition.encoding with
      | .json => (Json.Draft.tagged "query" (listing queries)).render
      | .xml => (element queries).render)

/--
The definition as a part of a request: in JSON a member with the comma that lets other
members follow, in XML the same element as in the document.
-/
def fragment (definition : Definition) : Except Error Document :=
  definition.written.map fun queries =>
    .encoded definition.encoding
      (match definition.encoding with
      | .json => Json.Draft.renderMembers "" [("query", listing queries)] ++ ","
      | .xml => (element queries).render)

end Definition

end SearchRequest

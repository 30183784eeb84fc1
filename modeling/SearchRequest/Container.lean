/-!
# Containers

A value or range query looks at the content of one container: a JSON property or an XML
element.  The name of an element may be qualified by a namespace.  An element without
one is unqualified and takes the default namespace when its query is written; the empty
namespace, once it has been stated, is kept.
-/

namespace SearchRequest

structure QualifiedName where
  name : String
  space : Option String := none
  deriving DecidableEq, Repr, Inhabited

namespace QualifiedName

/-- The name in a namespace; the empty one leaves it unqualified. -/
def inSpace (name space : String) : QualifiedName :=
  ⟨name, if space = "" then none else some space⟩

/-- The namespace as it is written: empty for an unqualified name. -/
def writtenSpace (name : QualifiedName) : String :=
  name.space.getD ""

/-- Give an unqualified name a namespace, unless that one is empty. -/
def qualify (space : String) (name : QualifiedName) : QualifiedName :=
  if name.space = none ∧ space ≠ "" then { name with space := some space } else name

end QualifiedName

inductive Container.Kind where
  | property
  | element
  deriving DecidableEq, Repr

/-- What a value or range query looks at. -/
inductive Container where
  | property (name : String)
  | element (name : QualifiedName)
  deriving DecidableEq, Repr

namespace Container

def kind : Container → Kind
  | .property _ => .property
  | .element _ => .element

def qualify (space : String) : Container → Container
  | .property name => .property name
  | .element name => .element (name.qualify space)

namespace Kind

/-- The name that stored forms use. -/
def key : Kind → String
  | .property => "json_property"
  | .element => "xml_element"

def ofKey? (key : String) : Option Kind :=
  [property, element].find? (·.key = key)

end Kind

end Container

end SearchRequest

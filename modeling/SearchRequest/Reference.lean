import SearchRequest.Container

/-!
# References

A reference gives a container a name of its own.  It can stand for a property as well as
for an element with the same target, and it may declare the type of the range index on
its container.
-/

namespace SearchRequest

def defaultRangeType : String := "xs:string"

structure Reference where
  /-- The name under which queries ask for the container. -/
  name : String
  /-- The name of the property or the local name of the element. -/
  target : String
  kind : Container.Kind
  space : Option String := none
  rangeType : Option String := none
  deriving DecidableEq, Repr

namespace Reference

def ofProperty (name property : String) : Reference :=
  { name := name, target := property, kind := .property }

def ofElement (name element : String) (space : Option String) : Reference :=
  { name := name, target := element, kind := .element, space := space }

def effectiveRangeType (reference : Reference) : String :=
  reference.rangeType.getD defaultRangeType

/-- The container as one of the given kind; an empty namespace leaves an element unqualified. -/
def container (reference : Reference) : Container.Kind → Container
  | .property => .property reference.target
  | .element => .element ⟨reference.target, reference.space.filter (· ≠ "")⟩

end Reference

end SearchRequest

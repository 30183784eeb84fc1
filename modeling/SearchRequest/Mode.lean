import SearchRequest.Encoding

/-!
# Modes

The mode of a definition says in which encoding its query is written and which form a
named container takes in it.
-/

namespace SearchRequest

inductive Mode where
  /-- JSON in which a named container matches as a property and as an element. -/
  | all
  | xml
  | json
  deriving DecidableEq, Repr

namespace Mode

instance : Inhabited Mode := ⟨json⟩

def encoding : Mode → Encoding
  | .all | .json => .json
  | .xml => .xml

/-- The name that stored forms use. -/
def key : Mode → String
  | .all => "all"
  | .xml => "xml"
  | .json => "json"

def ofKey? (key : String) : Option Mode :=
  [all, xml, json].find? (·.key = key)

end Mode

end SearchRequest

import SearchRequest.Json.Draft
import SearchRequest.Json.Reader

/-!
# Stored records

The stored form of a record is an object with named fields, or an array of the fields in
their order.  Members that are no field are passed over without a look at their content;
a field that comes twice is a mistake, and so is an array with more items than there are
fields.  A field may be missing where its type allows that.
-/

namespace SearchRequest.Stored

open Json (Spelling)

def membersNamed (name : String) (members : List (Option String × Spelling)) :
    List Spelling :=
  (members.filter (·.1 = some name)).map Prod.snd

def fields? (names : List String) : Spelling → Option (List (Option Spelling))
  | .object members =>
      if members.all (·.1.isSome) &&
          names.all fun name => (membersNamed name members).length ≤ 1 then
        some (names.map fun name => (membersNamed name members).head?)
      else none
  | .array items =>
      if items.length ≤ names.length then
        some (items.map some ++ List.replicate (names.length - items.length) none)
      else none
  | _ => none

def text? : Spelling → Option String
  | .text content => content
  | _ => none

def textField? (field : Option Spelling) : Option String :=
  field.bind text?

/-- The content of a field that may be missing or null. -/
def optionalTextField? : Option Spelling → Option (Option String)
  | none | some .null => some none
  | some spelling => (text? spelling).map some

def fieldOr? {α : Type} (default : α) (read? : Spelling → Option α) :
    Option Spelling → Option α
  | none => some default
  | some spelling => read? spelling

def texts? : Nat → Spelling → Option (List String)
  | _ + 1, .array items => items.mapM text?
  | _, _ => none

/-- One of a set of names: a text, or an object with the name as its only key and null. -/
def name? : Nat → Spelling → Option String
  | _, .text content => content
  | _ + 1, .object [(name, .null)] => name
  | _, _ => none

/-- The fields of a record that have a value, in order. -/
def record (fields : List (String × Option Json.Draft)) : Json.Draft :=
  .object (fields.filterMap fun field => field.2.map (field.1, ·))

end SearchRequest.Stored

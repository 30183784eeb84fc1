import SearchRequest.Json.Draft
import SearchRequest.Json.Number
import SearchRequest.Json.Reader

/-!
# JSON values

A JSON value is what a JSON text means.  The members of an object are ordered by key,
and of a repeated key the last member counts.  A text means a value only if every part of
it has content and no more brackets are open at once than the reader allows.
-/

namespace SearchRequest

/-- A JSON value; the members of an object are ordered by key. -/
inductive Json where
  | null
  | bool (value : Bool)
  | number (value : Json.Number)
  | text (content : String)
  | array (items : List Json)
  | object (members : List (String × Json))
  deriving Inhabited

namespace Json

/-- Put a member at its place by key; a member with the same key is replaced. -/
def insertMember (key : String) (value : Json) : List (String × Json) → List (String × Json)
  | [] => [(key, value)]
  | (otherKey, otherValue) :: rest =>
      if key < otherKey then (key, value) :: (otherKey, otherValue) :: rest
      else if key = otherKey then (key, value) :: rest
      else (otherKey, otherValue) :: insertMember key value rest

/-- The object with the given members, of which the last one counts for each key. -/
def ofMembers (members : List (String × Json)) : Json :=
  .object (members.foldl (fun ordered member => insertMember member.1 member.2 ordered) [])

def lookup? (key : String) : List (String × Json) → Option Json
  | [] => none
  | (otherKey, value) :: rest => if otherKey = key then some value else lookup? key rest

def get? (json : Json) (key : String) : Option Json :=
  match json with
  | .object members => lookup? key members
  | _ => none

/-- One value stands strictly inside another one. -/
inductive Inside : Json → Json → Prop where
  | item {part : Json} {items : List Json} (mem : part ∈ items) : Inside part (.array items)
  | member {key : String} {part : Json} {members : List (String × Json)}
      (mem : (key, part) ∈ members) : Inside part (.object members)
  | trans {part middle whole : Json} (inner : Inside part middle) (outer : Inside middle whole) :
      Inside part whole

theorem Inside.sizeOf_lt {part whole : Json} (inside : part.Inside whole) :
    sizeOf part < sizeOf whole := by
  induction inside with
  | item mem =>
      have := List.sizeOf_lt_of_mem mem
      rw [array.sizeOf_spec]
      omega
  | member mem =>
      have := List.sizeOf_lt_of_mem mem
      rw [Prod.mk.sizeOf_spec] at this
      rw [object.sizeOf_spec]
      omega
  | trans inner outer ofInner ofOuter => exact Nat.lt_trans ofInner ofOuter

theorem mem_of_lookup? {key : String} {members : List (String × Json)} {value : Json}
    (found : lookup? key members = some value) : (key, value) ∈ members := by
  induction members with
  | nil => cases found
  | cons member rest ih =>
      rw [lookup?] at found
      split at found
      · next same =>
          cases found
          cases same
          exact List.mem_cons_self
      · exact List.mem_cons_of_mem _ (ih found)

/-- A member stands inside its object. -/
theorem inside_of_get? {json : Json} {key : String} {value : Json}
    (found : json.get? key = some value) : value.Inside json := by
  cases json with
  | object members => exact .member (mem_of_lookup? found)
  | _ => cases found

def text? : Json → Option String
  | .text content => some content
  | _ => none

mutual

def draft : Json → Draft
  | .null => .verbatim "null"
  | .bool value => .bool value
  | .number value => .verbatim value.written
  | .text content => .text content
  | .array items => .array (draftItems items)
  | .object members => .object (draftMembers members)

def draftItems : List Json → List Draft
  | [] => []
  | item :: rest => draft item :: draftItems rest

def draftMembers : List (String × Json) → List (String × Draft)
  | [] => []
  | (key, value) :: rest => (key, draft value) :: draftMembers rest

end

def compact (json : Json) : String :=
  json.draft.render

/-- The value of a spelling of which at most `room` brackets are open at once. -/
def ofSpelling? : Nat → Spelling → Option Json
  | _, .null => some .null
  | _, .bool value => some (.bool value)
  | _, .number value => value.map .number
  | _, .text content => content.map .text
  | room + 1, .array items => (items.mapM (ofSpelling? room)).map .array
  | room + 1, .object members =>
      (members.mapM fun (member : Option String × Spelling) => do
        return (← member.1, ← ofSpelling? room member.2)).map ofMembers
  | 0, .array _ | 0, .object _ => none

def maxOpen : Nat := 127

def ofText? (text : String) : Option Json :=
  (Spelling.ofText? text).bind (ofSpelling? maxOpen)

end Json

end SearchRequest

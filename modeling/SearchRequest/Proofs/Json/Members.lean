import Mathlib.Data.List.Nodup
import SearchRequest.Json.Basic

/-!
# Members of objects

An object keeps its members by key, so what it holds under a key does not depend on the
other members, and of several members with one key it holds the last.
-/

namespace SearchRequest.Json

theorem lookup?_insertMember (key sought : String) (value : Json)
    (members : List (String × Json)) :
    lookup? sought (insertMember key value members) =
      if key = sought then some value else lookup? sought members := by
  induction members with
  | nil => rfl
  | cons member rest ih =>
      obtain ⟨otherKey, otherValue⟩ := member
      rw [insertMember]
      split
      · rfl
      split
      · next same =>
          subst same
          rw [lookup?, lookup?]
          split <;> rfl
      · next different =>
          rw [lookup?, lookup?, ih]
          split
          · next found =>
              subst found
              rw [if_neg different]
          · rfl

/-- The object of the given members, of which one has a given value. -/
def withMember (members : List (String × Json)) (key : String) (value : Json) : Json :=
  .object (insertMember key value members)

@[simp]
theorem get?_withMember (members : List (String × Json)) (key sought : String) (value : Json) :
    (withMember members key value).get? sought =
      if key = sought then some value else (object members).get? sought :=
  lookup?_insertMember key sought value members

/-- An object holds under a key what the last of its members with that key says. -/
theorem get?_ofMembers (members : List (String × Json)) (key : String) :
    (ofMembers members).get? key = lookup? key members.reverse := by
  rw [ofMembers, get?, ← List.foldr_reverse]
  induction members.reverse with
  | nil => rfl
  | cons member rest ih => rw [List.foldr_cons, lookup?_insertMember, ih, lookup?]

end SearchRequest.Json

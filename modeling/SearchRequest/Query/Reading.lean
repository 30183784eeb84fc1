import SearchRequest.Query.Clause

/-!
# Reading written queries

A written query is read clause by clause.  The clauses that a clause names stand strictly
inside it, so reading ends; the queries read from them are put together in order, and the
first failure from left to right is the failure of the whole.
-/

namespace SearchRequest

namespace Clause

/-- The JSON values that are clauses in turn. -/
def parts : Clause → List Json
  | .leaf _ => []
  | .negated body => [body]
  | .joined _ parts => parts

theorem map_eq_ok_iff {α β : Type} {f : α → β} {outcome : Except Error α} {result : β} :
    outcome.map f = .ok result ↔ ∃ value, outcome = .ok value ∧ f value = result := by
  cases outcome <;> simp [Except.map]

/-- The clauses that a body lists stand inside it. -/
theorem inside_of_list {owner : String} {body : Json} {parts : List Json}
    (listed : list owner body = .ok parts) {part : Json} (mem : part ∈ parts) :
    part.Inside body := by
  unfold list require at listed
  split at listed
  · next value found =>
      have inside := Json.inside_of_get? found
      cases value with
      | array items =>
          cases listed
          exact .trans (.item mem) inside
      | object members =>
          cases listed
          rw [List.mem_singleton] at mem
          exact mem ▸ inside
      | _ => cases listed
  · cases listed

/-- The clauses below a clause of a known kind stand in its body. -/
theorem inside_of_ofKind {kind : Query.Kind} {body whole : Json} {clause : Clause}
    (read : ofKind kind body whole = .ok clause) {part : Json} (mem : part ∈ clause.parts) :
    part = body ∨ part.Inside body := by
  have inList {owner : String} {join : Join}
      (read : (list owner body).map (Clause.joined join) = .ok clause) : part.Inside body := by
    obtain ⟨parts, listed, rfl⟩ := map_eq_ok_iff.mp read
    exact inside_of_list listed mem
  have inLeaf {α : Type} {outcome : Except Error α} {leaf : α → Query}
      (read : outcome.map (fun result => Clause.leaf (leaf result)) = .ok clause) :
      part.Inside body := by
    obtain ⟨result, _, rfl⟩ := map_eq_ok_iff.mp read
    cases mem
  cases kind with
  | allOf => exact .inr (inList read)
  | anyOf => exact .inr (inList read)
  | negate =>
      cases read
      exact .inl (List.mem_singleton.mp mem)
  | value => exact .inr (@inLeaf _ _ id read)
  | range => exact .inr (@inLeaf _ _ id read)
  | collections => exact .inr (inLeaf read)
  | documents => exact .inr (inLeaf read)
  | verbatim =>
      cases read
      cases mem

/-- The clauses below a clause stand strictly inside its object. -/
theorem inside_of_ofJson {json : Json} {clause : Clause} (read : ofJson json = .ok clause)
    {part : Json} (mem : part ∈ clause.parts) : part.Inside json := by
  unfold ofJson at read
  split at read
  · split at read
    · next document found =>
        obtain ⟨parts, listed, rfl⟩ := map_eq_ok_iff.mp read
        exact .trans (inside_of_list listed mem) (Json.inside_of_get? found)
    · split at read
      · next tag body _ =>
          have inObject : body.Inside (.object [(tag, body)]) := .member List.mem_cons_self
          obtain rfl | inBody := inside_of_ofKind read mem
          · exact inObject
          · exact .trans inBody inObject
      · cases read
  · cases read

end Clause

namespace Query

def ofJson (json : Json) : Except Error Query :=
  match _read : Clause.ofJson json with
  | .error failure => .error failure
  | .ok (.leaf query) => .ok query
  | .ok (.negated body) => (ofJson body).map .negate
  | .ok (.joined join parts) =>
      (parts.attach.mapM fun part => ofJson part.val).bind join.assemble
termination_by sizeOf json
decreasing_by
  · exact (Clause.inside_of_ofJson _read (by simp [Clause.parts])).sizeOf_lt
  · exact (Clause.inside_of_ofJson _read part.property).sizeOf_lt

def ofText (text : String) : Except Error Query :=
  match Json.ofText? text with
  | some json => ofJson json
  | none => .error (.clause .notJson)

end Query

end SearchRequest

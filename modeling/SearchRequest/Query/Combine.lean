import SearchRequest.Error

/-!
# Combining queries

Queries are combined by conjunction, disjunction and negation, each of which needs
something to combine.
-/

namespace SearchRequest.Query

def conjunction : List Query → Except Error Query
  | [] => .error (.emptyComposite .allOf)
  | queries => .ok (.allOf queries)

def disjunction : List Query → Except Error Query
  | [] => .error (.emptyComposite .anyOf)
  | queries => .ok (.anyOf queries)

def negation : Option Query → Except Error Query
  | none => .error (.emptyComposite .negate)
  | some query => .ok (.negate query)

def oneOrAny : List Query → Except Error Query
  | [query] => .ok query
  | queries => disjunction queries

theorem conjunction_eq_ok_iff {queries : List Query} {query : Query} :
    conjunction queries = .ok query ↔ queries ≠ [] ∧ query = .allOf queries := by
  cases queries <;> simp [conjunction, eq_comm]

theorem disjunction_eq_ok_iff {queries : List Query} {query : Query} :
    disjunction queries = .ok query ↔ queries ≠ [] ∧ query = .anyOf queries := by
  cases queries <;> simp [disjunction, eq_comm]

theorem negation_eq_ok_iff {inner : Option Query} {query : Query} :
    negation inner = .ok query ↔ ∃ part, inner = some part ∧ query = .negate part := by
  cases inner <;> simp [negation, eq_comm]

/-- One of several queries is that query itself if it is the only one. -/
theorem oneOrAny_cases {queries : List Query} {query : Query}
    (made : oneOrAny queries = .ok query) :
    queries = [query] ∨ queries ≠ [] ∧ query = .anyOf queries := by
  unfold oneOrAny at made
  split at made
  · cases made
    exact .inl rfl
  · exact .inr (disjunction_eq_ok_iff.mp made)

end SearchRequest.Query

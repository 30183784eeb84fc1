import Mathlib.Data.List.Forall2
import SearchRequest.Proofs.Query.Tree

/-!
# Queries of the same build

Two queries have the same build if they combine as many queries in the same way, so that every leaf
of one has a counterpart in the other.  How far counterparts may differ is left open here.
-/

namespace SearchRequest.Query

/-- The queries have the same build, and each leaf is related to its counterpart. -/
inductive Alike (related : Query → Query → Prop) : Query → Query → Prop where
  | leaf {leaf leaf' : Query} (counterparts : related leaf leaf') : Alike related leaf leaf'
  | allOf {queries queries' : List Query} (each : List.Forall₂ (Alike related) queries queries') :
      Alike related (.allOf queries) (.allOf queries')
  | anyOf {queries queries' : List Query} (each : List.Forall₂ (Alike related) queries queries') :
      Alike related (.anyOf queries) (.anyOf queries')
  | negate {query query' : Query} (inner : Alike related query query') :
      Alike related (.negate query) (.negate query')

variable {related : Query → Query → Prop} {query query' : Query}

theorem Alike.induction {motive : Query → Query → Prop}
    (leaf : ∀ leaf leaf', related leaf leaf' → motive leaf leaf')
    (allOf : ∀ queries queries', List.Forall₂ motive queries queries' →
      motive (.allOf queries) (.allOf queries'))
    (anyOf : ∀ queries queries', List.Forall₂ motive queries queries' →
      motive (.anyOf queries) (.anyOf queries'))
    (negate : ∀ query query', motive query query' → motive (.negate query) (.negate query'))
    (alike : Alike related query query') : motive query query' :=
  -- The counterparts stand in lists, so the induction is on a pair and on those lists together.
  alike.rec (motive_1 := fun query query' _ => motive query query')
    (motive_2 := fun queries queries' _ => List.Forall₂ motive queries queries')
    (fun counterparts => leaf _ _ counterparts) (fun _ each => allOf _ _ each)
    (fun _ each => anyOf _ _ each) (fun _ inner => negate _ _ inner) .nil
    (fun _ _ ofFirst ofRest => .cons ofFirst ofRest)

end SearchRequest.Query

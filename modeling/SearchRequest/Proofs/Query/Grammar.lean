import SearchRequest.Proofs.Query.Shapes

/-!
# The grammar of written queries

A value is a written query if it has the shape of a clause and so have the clauses in it, on every
level.  The values that are read as queries are these and no others.
-/

namespace SearchRequest.Query

inductive Grammatical : Json → Prop where
  | simple {json : Json} {leaves : List Query} (simple : Clause.Simple json leaves) :
      Grammatical json
  | combined {json : Json} {parts : List Json} (combines : Clause.Combines json parts)
      (each : ∀ part ∈ parts, Grammatical part) : Grammatical json

theorem grammatical_of_ofJson {json : Json} {query : Query} (read : ofJson json = .ok query) :
    Grammatical json := by
  refine shape_induction (motive := fun json _ => Grammatical json) ?simple ?combined read
  case simple =>
    intro json query simple
    exact .simple simple
  case combined =>
    intro json parts queries query combines each _
    exact .combined combines
      (Traversal.forall_mem_of_forall₂ each.flip fun _ _ _ ofPart => ofPart)

theorem exists_ofJson_of_grammatical {json : Json} (grammatical : Grammatical json) :
    ∃ query, ofJson json = .ok query := by
  induction grammatical with
  | simple simple =>
      obtain ⟨query, clause, -⟩ := Clause.ofJson_of_simple simple
      exact ⟨query, ofJson_of_leaf clause⟩
  | combined combines each ih =>
      obtain ⟨queries, listed⟩ := Traversal.exists_mapM_eq_ok ih
      obtain ⟨query, read, -⟩ := ofJson_of_combines combines listed
      exact ⟨query, read⟩

/-- A value is read as a query exactly when it is written in the grammar. -/
theorem exists_ofJson_iff_grammatical (json : Json) :
    (∃ query, ofJson json = .ok query) ↔ Grammatical json := by
  constructor
  · rintro ⟨query, read⟩
    exact grammatical_of_ofJson read
  · exact exists_ofJson_of_grammatical

end SearchRequest.Query

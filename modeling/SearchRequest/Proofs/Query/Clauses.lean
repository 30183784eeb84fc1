import SearchRequest.Proofs.Json.Ordered
import SearchRequest.Proofs.Query.Reading

/-!
# Queries that were read

Whatever is read from a written query is put together from its clauses, so what holds of each
clause holds of the query.  A clause whose key names no kind is kept as it is.
-/

namespace SearchRequest

open Json (single)
open Traversal (bind_eq_ok_iff)

namespace Query

/-- Induction over the clauses of a written query. -/
theorem ofJson_induction {motive : Json → Query → Prop}
    (leaf : ∀ json query, Clause.ofJson json = .ok (.leaf query) → motive json query)
    (negated : ∀ json body query, Clause.ofJson json = .ok (.negated body) → motive body query →
      motive json (.negate query))
    (joined : ∀ json join parts queries query, Clause.ofJson json = .ok (.joined join parts) →
      List.Forall₂ motive parts queries → join.assemble queries = .ok query → motive json query)
    {json : Json} {query : Query} (read : ofJson json = .ok query) : motive json query := by
  -- Which values are clauses is known only once the object around them was read, so no
  -- induction over the structure of the value reaches them; their size does.
  induction size : sizeOf json using Nat.strongRecOn generalizing json query with
  | ind _ ih =>
      subst size
      rw [ofJson_eq] at read
      cases clause : Clause.ofJson json with
      | error failure =>
          rw [clause] at read
          cases read
      | ok own =>
          rw [clause] at read
          have below {part : Json} (mem : part ∈ own.parts) {query : Query}
              (ofPart : ofJson part = .ok query) : motive part query :=
            ih (sizeOf part) (Clause.inside_of_ofJson clause mem).sizeOf_lt ofPart rfl
          cases own with
          | leaf query =>
              cases read
              exact leaf json query clause
          | negated body =>
              obtain ⟨inner, ofBody, rfl⟩ := Clause.map_eq_ok_iff.mp read
              exact negated json body inner clause (below List.mem_cons_self ofBody)
          | joined join parts =>
              obtain ⟨queries, listed, assembled⟩ := bind_eq_ok_iff.mp read
              refine joined json join parts queries query clause ?_ assembled
              rw [Traversal.mapM_eq_ok_iff] at listed
              exact Traversal.forall₂_imp_of_mem listed fun part mem _ ofPart => below mem ofPart

end Query

/-- A tag names a kind, unless it marks a text of the caller. -/
theorem Query.Kind.ofTag_eq_verbatim_iff {tag : String} :
    ofTag tag = .verbatim ↔ tag ∉ named.map Kind.tag := by
  rw [ofTag]
  cases found : named.find? (·.tag = tag) with
  | none =>
      rw [List.find?_eq_none] at found
      simpa using found
  | some kind =>
      have isNamed : kind ∈ named := List.mem_of_find?_eq_some found
      have own : kind.tag = tag := by simpa using List.find?_some found
      have notVerbatim : kind ≠ .verbatim := by
        rintro rfl
        exact absurd isNamed (by decide)
      exact iff_of_false notVerbatim (not_not_intro (own ▸ List.mem_map_of_mem isNamed))

theorem Query.Kind.tag_of_ofTag {tag : String} {kind : Kind} (found : ofTag tag = kind)
    (notVerbatim : kind ≠ .verbatim) : kind.tag = tag := by
  rw [ofTag] at found
  cases first : named.find? (·.tag = tag) with
  | none =>
      rw [first] at found
      exact absurd found.symm notVerbatim
  | some other =>
      rw [first] at found
      cases found
      simpa using List.find?_some first

namespace Clause

/-! ## Objects that are kept -/

def reservedKeys : List String :=
  ["query", "value-query", "range-query", "and-query", "or-query", "not-query",
    "collection-query", "document-query"]

theorem notMem_reservedKeys_iff {key : String} :
    key ∉ reservedKeys ↔ key ≠ "query" ∧ Query.Kind.ofTag key = .verbatim := by
  have listed : reservedKeys = "query" :: Query.Kind.named.map Query.Kind.tag := rfl
  rw [Query.Kind.ofTag_eq_verbatim_iff, listed, List.mem_cons, not_or]

/-- An object with a single member whose key is free for objects of an unknown kind. -/
def Unreserved (json : Json) : Prop :=
  ∃ key body, key ∉ reservedKeys ∧ json = single key body

/-- A clause of a written query that is kept as it is, because no kind has its name. -/
inductive Keeps : Json → Json → Prop where
  | whole {tag : String} (body : Json) (noDocument : tag ≠ "query")
      (noKind : Query.Kind.ofTag tag = .verbatim) : Keeps (single tag body) (single tag body)
  | part {whole part kept : Json} {clause : Clause} (read : ofJson whole = .ok clause)
      (mem : part ∈ clause.parts) (keeps : Keeps part kept) : Keeps whole kept

theorem Keeps.eq_or_inside {whole kept : Json} (keeps : Keeps whole kept) :
    kept = whole ∨ kept.Inside whole := by
  induction keeps with
  | whole body noDocument noKind => exact .inl rfl
  | part read mem keeps ih =>
      have inside := inside_of_ofJson read mem
      rcases ih with rfl | within
      · exact .inr inside
      · exact .inr (.trans within inside)

theorem ofJson_single_of_ne {tag : String} (noDocument : tag ≠ "query") (body : Json) :
    ofJson (single tag body) = ofKind (.ofTag tag) body (single tag body) := by
  have noQuery : (single tag body).get? "query" = none := if_neg noDocument
  rw [single, ofJson, ← single, noQuery]

theorem Keeps.unreserved {whole kept : Json} (keeps : Keeps whole kept) : Unreserved kept := by
  induction keeps with
  | whole body noDocument noKind =>
      exact ⟨_, body, notMem_reservedKeys_iff.mpr ⟨noDocument, noKind⟩, rfl⟩
  | part read mem keeps ih => exact ih

/-- The text of an object begins with a brace, so it is not blank. -/
theorem Unreserved.isBlank_compact {json : Json} (unreserved : Unreserved json) :
    Text.isBlank json.compact = false := by
  obtain ⟨key, body, -, rfl⟩ := unreserved
  have brace : Text.isBlank "\x7b" = false := by decide
  rw [single, Json.compact, Json.draft, Json.Draft.render, Text.isBlank_append,
    Text.isBlank_append, brace]
  rfl

/-- An object that is kept is read as the verbatim query with its compact text. -/
theorem Keeps.ofJson_kept {whole kept : Json} (keeps : Keeps whole kept) :
    ofJson kept = .ok (.leaf (.verbatim kept.compact .json)) := by
  induction keeps with
  | whole body noDocument noKind => rw [ofJson_single_of_ne noDocument, noKind, ofKind]
  | part read mem keeps ih => exact ih

end Clause

end SearchRequest

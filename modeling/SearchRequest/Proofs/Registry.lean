import Mathlib.Data.List.Dedup
import SearchRequest.Proofs.Traversal
import SearchRequest.Registry

/-!
# Looking up references

A registry only grows.  Registering a reference puts it behind the others or fails, so a name
keeps the reference that it was first found with.
-/

namespace SearchRequest.Registry

variable {registry : Registry} {name : String} {reference : Reference}

theorem resolve_eq_ok_iff :
    registry.resolve name = .ok reference ↔ registry.find? name = some reference := by
  rw [resolve]
  cases registry.find? name <;> simp

/-- What is made of the reference with a name is made only if there is such a reference. -/
theorem resolve_bind_eq_ok_iff {α : Type} {make : Reference → Except Error α} {made : α} :
    (registry.resolve name).bind make = .ok made ↔
      ∃ reference, registry.find? name = some reference ∧ make reference = .ok made := by
  simp only [Traversal.bind_eq_ok_iff, resolve_eq_ok_iff]

theorem name_of_find? (found : registry.find? name = some reference) : reference.name = name := by
  simpa using List.find?_some found

theorem contains_iff_exists_resolve :
    registry.contains name = true ↔ ∃ reference, registry.resolve name = .ok reference := by
  simp only [resolve_eq_ok_iff, contains, Option.isSome_iff_exists]

theorem contains_iff_mem :
    registry.contains name = true ↔ name ∈ registry.references.map Reference.name := by
  have free := find?_eq_none_iff registry name
  rw [← Option.not_isSome_iff_eq_none] at free
  exact not_iff_not.mp free

/-- A reference whose name is taken is refused; any other one goes behind the others. -/
theorem register_cases (registry : Registry) (reference : Reference) :
    (registry.contains reference.name = true ∧
      registry.register reference = .error (.duplicateReference reference.name)) ∨
    (registry.contains reference.name = false ∧ ∃ registered,
      registry.register reference = .ok registered ∧
        registered.references = registry.references ++ [reference]) := by
  unfold register
  split
  · next other taken =>
      left
      exact ⟨Option.isSome_iff_exists.mpr ⟨other, taken⟩, rfl⟩
  · next free =>
      right
      exact ⟨Option.isSome_eq_false_iff.mpr (Option.isNone_iff_eq_none.mpr free), _, rfl, rfl⟩

/-- Behind a registry, a list of references is only searched for names that are free. -/
theorem find?_of_append {registered : Registry} {references : List Reference}
    (appended : registered.references = registry.references ++ references) (name : String) :
    registered.find? name =
      (registry.find? name).or (references.find? fun reference => reference.name = name) := by
  rw [find?, appended, List.find?_append]
  rfl

/-- A reference that is refused would not have been found anyway. -/
theorem find?_or_of_contains (taken : registry.contains reference.name = true) (name : String) :
    registry.find? name =
      (registry.find? name).or ([reference].find? fun reference => reference.name = name) := by
  by_cases same : reference.name = name
  · subst same
    obtain ⟨other, found⟩ := Option.isSome_iff_exists.mp taken
    rw [found, Option.some_or]
  · simp [same]

/-- No two references of a registry have one name. -/
theorem eq_of_name_eq {other : Reference} (mem : reference ∈ registry.references)
    (mem' : other ∈ registry.references) (sameName : reference.name = other.name) :
    reference = other :=
  List.inj_on_of_nodup_map registry.distinct mem mem' sameName

/-- A name stands for the one reference that bears it. -/
theorem find?_eq_some_iff :
    registry.find? name = some reference ↔
      reference ∈ registry.references ∧ reference.name = name := by
  constructor
  · intro found
    exact ⟨List.mem_of_find?_eq_some found, name_of_find? found⟩
  · rintro ⟨mem, rfl⟩
    have taken := contains_iff_mem.mpr (List.mem_map_of_mem mem)
    obtain ⟨other, found⟩ := Option.isSome_iff_exists.mp taken
    rw [found, eq_of_name_eq (List.mem_of_find?_eq_some found) mem (name_of_find? found)]

theorem pairwise_byName (registry : Registry) :
    registry.byName.Pairwise fun first second => first.name ≤ second.name := by
  have sorted : registry.byName.Pairwise fun first second =>
      decide (first.name ≤ second.name) = true := by
    refine List.pairwise_mergeSort ?_ ?_ registry.references
    · intro first second third lower upper
      rw [decide_eq_true_iff] at lower upper ⊢
      exact String.le_trans lower upper
    · intro first second
      simpa using String.le_total first.name second.name
  simpa using sorted

section Reordered

variable {other : Registry} (reordered : other.references.Perm registry.references)

include reordered

/-- The order of registration does not show when a name is looked up. -/
theorem find?_of_perm (name : String) : other.find? name = registry.find? name := by
  apply Option.ext
  intro reference
  rw [find?_eq_some_iff, find?_eq_some_iff, reordered.mem_iff]

/-- The order of registration does not show when the references are ordered by name. -/
theorem byName_of_perm : other.byName = registry.byName := by
  have perm : other.byName.Perm registry.byName :=
    ((List.mergeSort_perm _ _).trans reordered).trans (List.mergeSort_perm _ _).symm
  refine perm.eq_of_pairwise ?_ other.pairwise_byName registry.pairwise_byName
  intro first second mem mem' lower upper
  have inRegistry : first ∈ registry.references :=
    reordered.mem_iff.mp ((List.mergeSort_perm _ _).mem_iff.mp mem)
  have inRegistry' : second ∈ registry.references := (List.mergeSort_perm _ _).mem_iff.mp mem'
  exact eq_of_name_eq inRegistry inRegistry' (String.le_antisymm lower upper)

end Reordered

/-- A registry that knows the names in a list has one reference for each of them. -/
theorem size_eq_length_dedup {names : List String}
    (known : ∀ name, registry.contains name = true ↔ name ∈ names) :
    registry.size = names.dedup.length := by
  have sameNames : (registry.references.map Reference.name).Perm names.dedup := by
    rw [List.perm_ext_iff_of_nodup registry.distinct names.nodup_dedup]
    intro name
    rw [List.mem_dedup, ← known, contains_iff_mem]
  rw [size, ← sameNames.length_eq, List.length_map]

end SearchRequest.Registry

import SearchRequest.Error
import SearchRequest.Reference

/-!
# Registries of references

A registry keeps references in the order in which they were registered.  Their names
differ: a name once taken stays with its first reference.
-/

namespace SearchRequest

/-- References with distinct names, in the order of their registration. -/
structure Registry where
  references : List Reference := []
  distinct : (references.map Reference.name).Nodup := by exact List.nodup_nil

namespace Registry

instance : Inhabited Registry := ⟨{}⟩

def find? (registry : Registry) (name : String) : Option Reference :=
  registry.references.find? (·.name = name)

def contains (registry : Registry) (name : String) : Bool :=
  (registry.find? name).isSome

def size (registry : Registry) : Nat :=
  registry.references.length

def resolve (registry : Registry) (name : String) : Except Error Reference :=
  match registry.find? name with
  | some reference => .ok reference
  | none => .error (.unknownReference name)

/-- A name is free exactly when no reference bears it. -/
theorem find?_eq_none_iff (registry : Registry) (name : String) :
    registry.find? name = none ↔ name ∉ registry.references.map Reference.name := by
  simp [find?]

def register (registry : Registry) (reference : Reference) : Except Error Registry :=
  match free : registry.find? reference.name with
  | some _ => .error (.duplicateReference reference.name)
  | none => .ok
      { references := registry.references ++ [reference]
        distinct := by
          have absent := (find?_eq_none_iff registry reference.name).mp free
          simpa [List.nodup_append, registry.distinct] using absent }

def byName (registry : Registry) : List Reference :=
  registry.references.mergeSort fun first second => first.name ≤ second.name

end Registry

end SearchRequest

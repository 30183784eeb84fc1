import SearchRequest.Proofs.Definition.Recipes

/-!
# Runs of a definition

A definition is set up and used by one call after the other, and some of the calls fail.  Whatever
the calls are, each name stands for the reference that was offered under it first, and a call that
fails leaves everything as it was.
-/

namespace SearchRequest.Definition

open Traversal (bind_eq_ok_iff)

/-! ## Calls -/

inductive Call where
  | register (reference : Reference)
  | registerProperty (name property : String)
  | registerElement (name element : String) (space : Option String)
  | setMode (mode : Mode)
  | setDefaultSpace (space : String)
  | setRoot (root : Query)
  | takeRoot
  | make (recipe : Recipe)

/-- A change that may fail: a failure is returned, and the definition stays. -/
def attempt (definition : Definition) :
    Except Error Definition → Except Error (Option Query) × Definition
  | .ok changed => (.ok none, changed)
  | .error failure => (.error failure, definition)

namespace Call

def apply (definition : Definition) : Call → Except Error (Option Query) × Definition
  | .register reference => definition.attempt (definition.register reference)
  | .registerProperty name property =>
      definition.attempt (definition.registerProperty name property)
  | .registerElement name element space =>
      definition.attempt (definition.registerElement name element space)
  | .setMode mode => (.ok none, definition.setMode mode)
  | .setDefaultSpace space => (.ok none, definition.setDefaultSpace space)
  | .setRoot root => (.ok none, definition.setRoot root)
  | .takeRoot => (.ok definition.root, definition.clearRoot)
  | .make recipe => ((recipe.make definition).map some, definition)

/-- The reference that a call offers for registration, whether its name is free or not. -/
def offered : Call → List Reference
  | .register reference => [reference]
  | .registerProperty name property => [.ofProperty name property]
  | .registerElement name element space => [.ofElement name element space]
  | _ => []

end Call

def run (definition : Definition) (calls : List Call) : Definition :=
  calls.foldl (fun definition call => (call.apply definition).2) definition

/-! ## What a call can do to the references -/

/-- Registering a reference changes nothing else, and a taken name is an error. -/
theorem register_cases (definition : Definition) (reference : Reference) :
    (definition.registry.contains reference.name = true ∧
      definition.register reference = .error (.duplicateReference reference.name)) ∨
    (definition.registry.contains reference.name = false ∧ ∃ registered,
      registered.references = definition.registry.references ++ [reference] ∧
        definition.register reference = .ok { definition with registry := registered }) := by
  rw [register]
  rcases definition.registry.register_cases reference with
    ⟨taken, refused⟩ | ⟨free, registered, accepted, appended⟩
  · left
    rw [refused]
    exact ⟨taken, rfl⟩
  · right
    rw [accepted]
    exact ⟨free, registered, appended, rfl⟩

theorem find?_attempt_register (definition : Definition) (reference : Reference) (name : String) :
    (definition.attempt (definition.register reference)).2.registry.find? name =
      (definition.registry.find? name).or
        ([reference].find? fun reference => reference.name = name) := by
  rcases definition.register_cases reference with ⟨taken, refused⟩ | ⟨-, _, appended, accepted⟩
  · rw [refused]
    exact Registry.find?_or_of_contains taken name
  · rw [accepted]
    exact Registry.find?_of_append appended name

/-- Every call that offers a reference is an attempt to register it. -/
theorem apply_of_mem_offered {call : Call} {reference : Reference}
    (offers : reference ∈ call.offered) (definition : Definition) :
    call.apply definition = definition.attempt (definition.register reference) := by
  cases call with
  | register own =>
      obtain rfl := List.mem_singleton.mp offers
      rfl
  | registerProperty name property =>
      obtain rfl := List.mem_singleton.mp offers
      rfl
  | registerElement name element space =>
      obtain rfl := List.mem_singleton.mp offers
      rfl
  | _ => cases offers

/-- A call that fails changes nothing. -/
theorem apply_eq_self_of_error {definition : Definition} {call : Call} {failure : Error}
    (failed : (call.apply definition).1 = .error failure) :
    (call.apply definition).2 = definition := by
  have ofAttempt {outcome : Except Error Definition}
      (failed : (definition.attempt outcome).1 = .error failure) :
      (definition.attempt outcome).2 = definition := by
    cases outcome with
    | ok changed => cases failed
    | error own => rfl
  cases call with
  | register reference => exact ofAttempt failed
  | registerProperty name property => exact ofAttempt failed
  | registerElement name element space => exact ofAttempt failed
  | make recipe => rfl
  | _ => cases failed

/-- A call is a change to the references only if it offers one, and then only for a free name. -/
theorem find?_apply (definition : Definition) (call : Call) (name : String) :
    (call.apply definition).2.registry.find? name =
      (definition.registry.find? name).or
        (call.offered.find? fun reference => reference.name = name) := by
  cases call with
  | register reference => exact find?_attempt_register definition reference name
  | registerProperty name' property => exact find?_attempt_register definition _ name
  | registerElement name' element space => exact find?_attempt_register definition _ name
  | _ => exact Option.or_none.symm

/-- A name that is taken keeps its reference in every run. -/
theorem find?_run_of_some {definition : Definition} {name : String} {reference : Reference}
    (found : definition.registry.find? name = some reference) (calls : List Call) :
    (definition.run calls).registry.find? name = some reference := by
  induction calls generalizing definition with
  | nil => exact found
  | cons call rest ih =>
      apply ih
      rw [find?_apply, found, Option.some_or]

/-- The references of settings are found in the order in which they were declared. -/
theorem find?_foldlM_register {references : List Reference} {definition last : Definition}
    (loaded : references.foldlM register definition = .ok last) (name : String) :
    last.registry.find? name =
      (definition.registry.find? name).or
        (references.find? fun reference => reference.name = name) := by
  induction references generalizing definition with
  | nil =>
      cases loaded
      exact Option.or_none.symm
  | cons reference rest ih =>
      obtain ⟨registered, accepted, loaded⟩ := bind_eq_ok_iff.mp loaded
      have first := find?_attempt_register definition reference name
      rw [accepted] at first
      rw [ih loaded, ← List.singleton_append, List.find?_append, ← Option.or_assoc, ← first]
      rfl

/-! ## Definitions that can be reached -/

/--
The definitions that calls lead to, each with the references that were offered on the way to it, in
their order.  The way begins with a new definition or with settings that could be loaded.
-/
inductive Reached : List Reference → Definition → Prop where
  | new : Reached [] {}
  | loaded {settings : Settings} {definition : Definition}
      (load : ofSettings settings = .ok definition) : Reached settings.references definition
  | called {offered : List Reference} {definition : Definition}
      (reached : Reached offered definition) (call : Call) :
      Reached (offered ++ call.offered) (call.apply definition).2

namespace Reached

variable {offered : List Reference} {definition : Definition}

/-- In every run, a name stands for the first reference that was offered under it. -/
theorem find?_eq (reached : Reached offered definition) (name : String) :
    definition.registry.find? name =
      offered.find? fun reference => reference.name = name := by
  induction reached with
  | new => rfl
  | loaded load =>
      rw [find?_foldlM_register load]
      rfl
  | called reached call ih => rw [find?_apply, ih, List.find?_append]

theorem contains_iff (reached : Reached offered definition) (name : String) :
    definition.registry.contains name = true ↔ name ∈ offered.map Reference.name := by
  rw [Registry.contains, reached.find?_eq]
  simp

theorem notMem_iff (reached : Reached offered definition) (name : String) :
    name ∉ offered.map Reference.name ↔ definition.registry.find? name = none := by
  rw [← reached.contains_iff, Registry.contains, Option.not_isSome_iff_eq_none]

/--
What can be said of the references of a definition at any point of a run.  Each name stands for the
first reference that was offered under it, and that reference bears it; the other names are unknown.
There is one reference for each name that was offered.  A reference is taken in if its name was not
offered before, and otherwise it is refused; this and every other failure changes nothing.  So a
query that could be made once is made again later, as long as the mode is the same.
-/
theorem keeps_first_references (reached : Reached offered definition) :
    (∀ name reference, (offered.find? fun reference => reference.name = name) = some reference →
      definition.registry.resolve name = .ok reference ∧ reference.name = name) ∧
    (∀ name, name ∉ offered.map Reference.name →
      definition.registry.resolve name = .error (.unknownReference name)) ∧
    (∀ name, definition.registry.contains name = true ↔
      ∃ reference, definition.registry.resolve name = .ok reference) ∧
    definition.registry.size = (offered.map Reference.name).dedup.length ∧
    (∀ (call : Call) (reference : Reference), reference ∈ call.offered →
      (reference.name ∈ offered.map Reference.name →
        call.apply definition = (.error (.duplicateReference reference.name), definition)) ∧
      (reference.name ∉ offered.map Reference.name → ∃ registered,
        registered.references = definition.registry.references ++ [reference] ∧
          call.apply definition = (.ok none, { definition with registry := registered }))) ∧
    (∀ (call : Call) (failure : Error), (call.apply definition).1 = .error failure →
      (call.apply definition).2 = definition) ∧
    (∀ (recipe : Recipe) (query : Query) (calls : List Call),
      recipe.make definition = .ok query → (definition.run calls).mode = definition.mode →
        recipe.make (definition.run calls) = .ok query) := by
  refine ⟨?_, ?_, ?_, ?_, ?_, ?_, ?_⟩
  · intro name reference first
    rw [← reached.find?_eq] at first
    exact ⟨Registry.resolve_eq_ok_iff.mpr first, Registry.name_of_find? first⟩
  · intro name unknown
    rw [Registry.resolve, (reached.notMem_iff name).mp unknown]
  · intro name
    exact Registry.contains_iff_exists_resolve
  · exact Registry.size_eq_length_dedup reached.contains_iff
  · intro call reference offers
    rw [← reached.contains_iff, apply_of_mem_offered offers]
    rcases definition.register_cases reference with
      ⟨taken, refused⟩ | ⟨free, registered, appended, accepted⟩
    · rw [refused]
      exact ⟨fun _ => rfl, fun free => absurd taken free⟩
    · rw [accepted]
      refine ⟨?_, fun _ => ⟨registered, appended, rfl⟩⟩
      intro taken
      rw [free] at taken
      cases taken
  · intro call failure failed
    exact apply_eq_self_of_error failed
  · intro recipe query calls made sameMode
    exact Recipe.make_of_kept sameMode (fun _ _ found => find?_run_of_some found calls) made

def costReference : Reference where
  name := "price"
  target := "cost"
  kind := .property

def costSettings : Settings where
  references := [costReference]

/-- The name of a declared reference is offered twice more, and the query on it stays the same. -/
theorem keeps_first_references_costReference :
    ∃ definition, Reached [costReference, .ofElement "price" "preis" none,
        .ofElement "title" "titel" (some "")] definition ∧
      definition.registry.resolve "price" = .ok costReference ∧
      definition.registry.resolve "preis" = .error (.unknownReference "preis") ∧
      definition.registry.size = 2 ∧
      (Call.registerProperty "title" "t").apply definition =
        (.error (.duplicateReference "title"), definition) ∧
      (Recipe.value "price" "7").make definition = .ok (.propertyEquals "cost" "7") ∧
      (Recipe.value "price" "7").make
          (definition.run [.setMode .xml, .registerProperty "price" "p", .setMode .json]) =
        .ok (.propertyEquals "cost" "7") := by
  obtain ⟨start, load⟩ : ∃ start, ofSettings costSettings = .ok start := ⟨_, rfl⟩
  have reached := ((Reached.loaded load).called (.registerElement "price" "preis" none)).called
    (.registerElement "title" "titel" (some ""))
  obtain ⟨first, unknown, -, size, offers, -, again⟩ := reached.keeps_first_references
  cases load
  refine ⟨_, reached, (first "price" costReference rfl).1, unknown "preis" (by decide), size,
    (offers (.registerProperty "title" "t") _ List.mem_cons_self).1 (by decide), ?made,
    again _ _ _ ?made rfl⟩
  case made => rfl

end Reached

end SearchRequest.Definition

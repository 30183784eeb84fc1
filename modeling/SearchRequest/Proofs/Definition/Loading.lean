import Mathlib.Data.List.Induction
import SearchRequest.Proofs.Definition.Runs

/-!
# Loading settings

The references of settings are registered one after the other.  Each of them is taken in as long as
its name is new, and the first name that comes again ends the loading.  So it does not matter in
which order different names are declared: every definition that comes of them answers alike.
-/

namespace SearchRequest.Definition

variable {definition other : Definition} {references : List Reference} {reference : Reference}

/-- The reference is the first one in a list whose name was borne by one before it. -/
def FirstRepeated (references : List Reference) (reference : Reference) : Prop :=
  ∃ before after, references = before ++ reference :: after ∧
    (before.map Reference.name).Nodup ∧ reference.name ∈ before.map Reference.name

/-- Either all names differ, or there is a first one that comes again. -/
theorem nodup_or_firstRepeated (references : List Reference) :
    (references.map Reference.name).Nodup ∨ ∃ reference, FirstRepeated references reference := by
  induction references using List.reverseRecOn with
  | nil => exact .inl List.nodup_nil
  | append_singleton front last ih =>
      rcases ih with distinct | ⟨reference, before, after, rfl, distinct, again⟩
      · by_cases taken : last.name ∈ front.map Reference.name
        · exact .inr ⟨last, front, [], rfl, distinct, taken⟩
        · left
          rw [List.map_append, List.map_singleton, ← List.concat_eq_append, List.nodup_concat]
          exact ⟨taken, distinct⟩
      · exact .inr ⟨reference, before, after ++ [last], by simp, distinct, again⟩

/-! ## Registering one after the other -/

/-- References with new names are all taken in, behind those that were there. -/
theorem foldlM_register_of_nodup (definition : Definition) (references : List Reference)
    (distinct : ((definition.registry.references ++ references).map Reference.name).Nodup) :
    ∃ registered, registered.references = definition.registry.references ++ references ∧
      references.foldlM register definition = .ok { definition with registry := registered } := by
  induction references generalizing definition with
  | nil => exact ⟨definition.registry, (List.append_nil _).symm, rfl⟩
  | cons reference rest ih =>
      rcases definition.register_cases reference with
        ⟨taken, -⟩ | ⟨-, registered, appended, accepted⟩
      · have known := Registry.contains_iff_mem.mp taken
        rw [List.map_append, List.map_cons, List.nodup_append] at distinct
        exact absurd rfl (distinct.2.2 _ known _ List.mem_cons_self)
      · have split : definition.registry.references ++ reference :: rest =
            registered.references ++ rest := by
          rw [appended, List.append_assoc, List.singleton_append]
        rw [split] at distinct
        obtain ⟨last, all, loaded⟩ := ih { definition with registry := registered } distinct
        refine ⟨last, all.trans split.symm, ?_⟩
        rw [List.foldlM_cons, accepted]
        exact loaded

/-- The definition of settings before any of their references is registered. -/
def bare (settings : Settings) : Definition where
  mode := settings.mode
  defaultSpace := settings.defaultSpace

/-- Settings whose references have different names make up a definition with all of them. -/
theorem ofSettings_of_nodup (settings : Settings)
    (distinct : (settings.references.map Reference.name).Nodup) :
    ∃ registered, registered.references = settings.references ∧
      ofSettings settings = .ok { bare settings with registry := registered } :=
  foldlM_register_of_nodup (bare settings) settings.references distinct

/-- A name that comes again ends the loading, whatever is declared behind it. -/
theorem ofSettings_of_firstRepeated {settings : Settings}
    (repeated : FirstRepeated settings.references reference) :
    ofSettings settings = .error (.duplicateReference reference.name) := by
  obtain ⟨before, after, declared, distinct, again⟩ := repeated
  obtain ⟨registered, all, loaded⟩ := foldlM_register_of_nodup (bare settings) before distinct
  have known : registered.contains reference.name = true := by
    rw [Registry.contains_iff_mem, all]
    exact again
  rcases register_cases { bare settings with registry := registered } reference with
    ⟨-, refused⟩ | ⟨free, -⟩
  · change settings.references.foldlM register (bare settings) = _
    rw [declared, List.foldlM_append, loaded]
    change (List.foldlM register _ (reference :: after)) = _
    rw [List.foldlM_cons, refused]
    rfl
  · exact absurd known (Bool.eq_false_iff.mp free)

variable {settings : Settings}

theorem exists_ofSettings_iff :
    (∃ definition, ofSettings settings = .ok definition) ↔
      (settings.references.map Reference.name).Nodup := by
  constructor
  · rintro ⟨definition, loaded⟩
    rcases nodup_or_firstRepeated settings.references with distinct | ⟨reference, repeated⟩
    · exact distinct
    · rw [ofSettings_of_firstRepeated repeated] at loaded
      cases loaded
  · intro distinct
    obtain ⟨registered, -, loaded⟩ := ofSettings_of_nodup settings distinct
    exact ⟨_, loaded⟩

theorem ofSettings_eq_error_iff {failure : Error} :
    ofSettings settings = .error failure ↔ ∃ reference,
      FirstRepeated settings.references reference ∧
        failure = .duplicateReference reference.name := by
  constructor
  · intro failed
    rcases nodup_or_firstRepeated settings.references with distinct | ⟨reference, repeated⟩
    · obtain ⟨registered, -, loaded⟩ := ofSettings_of_nodup settings distinct
      rw [loaded] at failed
      cases failed
    · rw [ofSettings_of_firstRepeated repeated] at failed
      cases failed
      exact ⟨reference, repeated, rfl⟩
  · rintro ⟨reference, repeated, rfl⟩
    exact ofSettings_of_firstRepeated repeated

/-- A definition that was loaded is the one without references, and they are added in order. -/
theorem eq_of_ofSettings (loaded : ofSettings settings = .ok definition) :
    definition = { bare settings with registry := definition.registry } ∧
      definition.registry.references = settings.references := by
  obtain ⟨registered, all, again⟩ := ofSettings_of_nodup settings (exists_ofSettings_iff.mp ⟨_, loaded⟩)
  rw [loaded] at again
  cases again
  exact ⟨rfl, all⟩

/-! ## The order of the references -/

/-- Two definitions that only differ in the order in which references were registered. -/
structure SameButOrder (definition other : Definition) : Prop where
  mode : other.mode = definition.mode
  defaultSpace : other.defaultSpace = definition.defaultSpace
  root : other.root = definition.root
  references : other.registry.references.Perm definition.registry.references
  byName : other.registry.byName = definition.registry.byName
  size : other.registry.size = definition.registry.size
  resolve : ∀ name, other.registry.resolve name = definition.registry.resolve name
  contains : ∀ name, other.registry.contains name = definition.registry.contains name
  make : ∀ recipe : Recipe, recipe.make other = recipe.make definition

theorem sameButOrder_of_perm (mode : other.mode = definition.mode)
    (defaultSpace : other.defaultSpace = definition.defaultSpace)
    (root : other.root = definition.root)
    (references : other.registry.references.Perm definition.registry.references) :
    SameButOrder definition other where
  mode := mode
  defaultSpace := defaultSpace
  root := root
  references := references
  byName := Registry.byName_of_perm references
  size := references.length_eq
  resolve name := by rw [Registry.resolve, Registry.resolve, Registry.find?_of_perm references]
  contains name := by rw [Registry.contains, Registry.contains, Registry.find?_of_perm references]
  make := Recipe.make_congr_of_find? mode (Registry.find?_of_perm references)

/--
Settings can be loaded exactly if their references have different names, and otherwise the first
name that comes again is refused.  What is loaded has the mode and the default namespace of the
settings, no root, and the declared references as they were declared, each under its name, and no
others.  If the references are declared in another order, the definition answers in the same way.
-/
theorem ofSettings_registers_declared (settings : Settings) :
    ((∃ definition, ofSettings settings = .ok definition) ↔
      (settings.references.map Reference.name).Nodup) ∧
    (∀ failure, ofSettings settings = .error failure ↔ ∃ reference,
      FirstRepeated settings.references reference ∧
        failure = .duplicateReference reference.name) ∧
    ∀ definition, ofSettings settings = .ok definition →
      definition.mode = settings.mode ∧
      definition.defaultSpace = settings.defaultSpace ∧
      definition.root = none ∧
      (∀ reference ∈ settings.references,
        definition.registry.resolve reference.name = .ok reference) ∧
      (∀ name, name ∉ settings.references.map Reference.name →
        definition.registry.resolve name = .error (.unknownReference name)) ∧
      definition.registry.size = settings.references.length ∧
      ∀ references : List Reference, references.Perm settings.references →
        ∃ other, ofSettings { settings with references := references } = .ok other ∧
          SameButOrder definition other := by
  refine ⟨exists_ofSettings_iff, fun _ => ofSettings_eq_error_iff, ?_⟩
  intro definition loaded
  obtain ⟨same, all⟩ := eq_of_ofSettings loaded
  rw [same]
  refine ⟨rfl, rfl, rfl, ?_, ?_, ?_, ?_⟩
  · intro reference mem
    rw [← all] at mem
    exact Registry.resolve_eq_ok_iff.mpr (Registry.find?_eq_some_iff.mpr ⟨mem, rfl⟩)
  · intro name unknown
    rw [← all] at unknown
    rw [Registry.resolve, (Registry.find?_eq_none_iff _ name).mpr unknown]
  · exact congrArg List.length all
  · intro references reordered
    have distinct := exists_ofSettings_iff.mp ⟨_, loaded⟩
    rw [← (reordered.map Reference.name).nodup_iff] at distinct
    obtain ⟨registered, all', loaded'⟩ :=
      ofSettings_of_nodup { settings with references := references } distinct
    refine ⟨_, loaded', sameButOrder_of_perm rfl rfl rfl ?_⟩
    change registered.references.Perm definition.registry.references
    rw [all, all']
    exact reordered

def ripeReference : Reference where
  name := "ripe"
  target := "reif"
  kind := .element
  space := some "urn:orchard"
  rangeType := some "xs:date"

def orchardSettings : Settings where
  mode := .all
  defaultSpace := "urn:orchard"
  references := [.ofProperty "pear" "birne", ripeReference, .ofElement "apple" "apfel" none]

/-- The references are declared backwards, or two of them again, the last one first. -/
theorem ofSettings_registers_declared_orchardSettings :
    (∃ definition, ofSettings orchardSettings = .ok definition ∧
      definition.mode = .all ∧ definition.defaultSpace = "urn:orchard" ∧ definition.root = none ∧
      definition.registry.resolve "ripe" = .ok ripeReference ∧
      definition.registry.resolve "reif" = .error (.unknownReference "reif") ∧
      definition.registry.size = 3 ∧
      ∃ other, ofSettings { orchardSettings with
          references := orchardSettings.references.reverse } = .ok other ∧
        SameButOrder definition other) ∧
    ofSettings { orchardSettings with
        references := orchardSettings.references ++
          [.ofProperty "apple" "obst", .ofProperty "pear" "obst"] } =
      .error (.duplicateReference "apple") := by
  obtain ⟨loads, -, answers⟩ := ofSettings_registers_declared orchardSettings
  obtain ⟨definition, loaded⟩ := loads.mpr (by decide)
  obtain ⟨mode, space, root, declared, others, size, reordered⟩ := answers definition loaded
  refine ⟨⟨definition, loaded, mode, space, root, declared ripeReference (by decide),
    others "reif" (by decide), size, reordered _ (List.reverse_perm _)⟩, ?_⟩
  refine ((ofSettings_registers_declared _).2.1 _).mpr ⟨.ofProperty "apple" "obst", ?_, rfl⟩
  exact ⟨orchardSettings.references, [.ofProperty "pear" "obst"], rfl, by decide, by decide⟩

end SearchRequest.Definition

import SearchRequest.Proofs.Definition.Recipes

/-!
# Queries on named containers

A named container can be asked for a value or compared with a bound, in the forms that the mode
chooses or in one given form.  These recipes agree: what the mode chooses is what the given forms
make, alone or as alternatives, and all of them fail for the same reasons.
-/

namespace SearchRequest.Definition

namespace Recipe

/-- The name of the container that a recipe asks for. -/
def asked? : Recipe → Option String
  | .value name _ | .valueAs _ name _ | .range name _ _ | .rangeAs _ name _ _ => some name
  | _ => none

/-- The recipe has to compare, but no comparison was set. -/
def LacksComparison : Recipe → Prop
  | .range _ none _ | .rangeAs _ _ none _ => True
  | _ => False

/-- What a recipe makes of the reference with the name that it asks for. -/
def on (definition : Definition) (reference : Reference) : Recipe → Except Error Query
  | .value _ content => valueOn reference (definition.kinds reference) content
  | .valueAs kind _ content => valueOn reference [kind] content
  | .range _ comparison bound =>
      rangeOn reference (definition.kinds reference) comparison bound
  | .rangeAs kind _ comparison bound => rangeOn reference [kind] comparison bound
  | recipe => recipe.make definition

end Recipe

section Alternatives

variable {reference : Reference} {kinds : List Container.Kind} {query : Query}

theorem exists_oneOrAny {queries : List Query} (someQuery : queries ≠ []) :
    ∃ query, Query.oneOrAny queries = .ok query := by
  unfold Query.oneOrAny
  split
  · exact ⟨_, rfl⟩
  · exact ⟨_, Query.disjunction_eq_ok_iff.mpr ⟨someQuery, rfl⟩⟩

theorem exists_valueOn (someKind : kinds ≠ []) (content : String) :
    ∃ query, valueOn reference kinds content = .ok query :=
  exists_oneOrAny (mt List.map_eq_nil_iff.mp someKind)

theorem exists_rangeOn (someKind : kinds ≠ []) (comparison : Comparison) (bound : String) :
    ∃ query, rangeOn reference kinds (some comparison) bound = .ok query := by
  rw [rangeOn, if_neg nofun]
  exact exists_oneOrAny (mt List.map_eq_nil_iff.mp someKind)

/-- The node compares in a range index of the type, if it compares at all. -/
def ComparesAs (rangeType : String) (node : Query) : Prop :=
  ∀ container comparison bound own, node = .range container comparison bound own → own = rangeType

theorem comparesAs_of_valueOn {rangeType content : String}
    (made : valueOn reference kinds content = .ok query) :
    ∀ node ∈ query.nodes, ComparesAs rangeType node := by
  refine forall_nodes_of_oneOrAny (fun _ => nofun) (List.forall_mem_map.mpr fun kind _ => ?_) made
  cases kind <;> exact List.forall_mem_singleton.mpr nofun

theorem comparesAs_of_rangeOn {comparison : Option Comparison} {bound : String}
    (made : rangeOn reference kinds comparison bound = .ok query) :
    ∀ node ∈ query.nodes, ComparesAs reference.effectiveRangeType node := by
  cases comparison with
  | none => cases made
  | some comparison =>
      refine forall_nodes_of_oneOrAny (fun _ => nofun)
        (List.forall_mem_map.mpr fun kind _ => List.forall_mem_singleton.mpr ?_) made
      intro container _ _ own same
      cases same
      rfl

end Alternatives

section Named

variable {definition : Definition} {reference : Reference} {name : String} {recipe : Recipe}
  {query : Query}

theorem kinds_ne_nil (definition : Definition) (reference : Reference) :
    definition.kinds reference ≠ [] := by
  rw [kinds]
  cases definition.mode <;> exact List.cons_ne_nil _ _

theorem kinds_of_all (all : definition.mode = .all) (reference : Reference) :
    definition.kinds reference = [.property, .element] := by
  rw [kinds, all]

theorem kinds_of_ne_all (notAll : definition.mode ≠ .all) (reference : Reference) :
    definition.kinds reference = [reference.kind] := by
  rw [kinds]
  cases mode : definition.mode with
  | all => exact absurd mode notAll
  | json => rfl
  | xml => rfl

namespace Recipe

/-- A recipe that asks for a container looks up its name before anything else. -/
theorem make_of_asked (asks : recipe.asked? = some name) :
    recipe.make definition = (definition.registry.resolve name).bind (recipe.on definition) := by
  cases recipe <;> cases asks <;> rfl

theorem make_of_unknown (asks : recipe.asked? = some name)
    (unknown : definition.registry.find? name = none) :
    recipe.make definition = .error (.unknownReference name) := by
  rw [make_of_asked asks, Registry.resolve, unknown]
  rfl

theorem make_of_found (asks : recipe.asked? = some name)
    (found : definition.registry.find? name = some reference) :
    recipe.make definition = recipe.on definition reference := by
  rw [make_of_asked asks, Registry.resolve_eq_ok_iff.mpr found]
  rfl

theorem on_of_lacksComparison (lacks : recipe.LacksComparison) :
    recipe.on definition reference = .error (.comparisonMissing reference.name) := by
  cases recipe with
  | range name comparison bound => cases comparison <;> cases lacks; rfl
  | rangeAs kind name comparison bound => cases comparison <;> cases lacks; rfl
  | _ => cases lacks

theorem exists_on (asks : recipe.asked? = some name) (compares : ¬recipe.LacksComparison) :
    ∃ query, recipe.on definition reference = .ok query := by
  cases recipe with
  | value name content => exact exists_valueOn (kinds_ne_nil definition reference) content
  | valueAs kind name content => exact exists_valueOn (List.cons_ne_nil _ _) content
  | range name comparison bound =>
      cases comparison with
      | none => exact absurd trivial compares
      | some comparison => exact exists_rangeOn (kinds_ne_nil definition reference) comparison bound
  | rangeAs kind name comparison bound =>
      cases comparison with
      | none => exact absurd trivial compares
      | some comparison => exact exists_rangeOn (List.cons_ne_nil _ _) comparison bound
  | _ => cases asks

theorem comparesAs_of_on (asks : recipe.asked? = some name)
    (made : recipe.on definition reference = .ok query) :
    ∀ node ∈ query.nodes, ComparesAs reference.effectiveRangeType node := by
  cases recipe with
  | value name content => exact comparesAs_of_valueOn made
  | valueAs kind name content => exact comparesAs_of_valueOn made
  | range name comparison bound => exact comparesAs_of_rangeOn made
  | rangeAs kind name comparison bound => exact comparesAs_of_rangeOn made
  | _ => cases asks

/-- Only the mode and the references decide what comes of a recipe. -/
theorem make_congr {definition other : Definition} (sameMode : other.mode = definition.mode)
    (sameRegistry : other.registry = definition.registry) (recipe : Recipe) :
    recipe.make other = recipe.make definition := by
  refine make_congr_of_find? sameMode (fun name => ?_) recipe
  rw [sameRegistry]

end Recipe

/-! ## The mode for all -/

theorem value_of_all (all : definition.mode = .all) (name content : String) :
    definition.value name content = (do
      let asProperty ← definition.valueAs .property name content
      let asElement ← definition.valueAs .element name content
      Query.disjunction [asProperty, asElement]) := by
  rw [value, valueAs, valueAs]
  cases definition.registry.resolve name with
  | error failure => rfl
  | ok reference =>
      simp only [kinds_of_all all]
      rfl

theorem range_of_all (all : definition.mode = .all) (name : String)
    (comparison : Option Comparison) (bound : String) :
    definition.range name comparison bound = (do
      let asProperty ← definition.rangeAs .property name comparison bound
      let asElement ← definition.rangeAs .element name comparison bound
      Query.disjunction [asProperty, asElement]) := by
  rw [range, rangeAs, rangeAs]
  cases definition.registry.resolve name with
  | error failure => rfl
  | ok reference =>
      simp only [kinds_of_all all]
      cases comparison <;> rfl

theorem value_of_ne_all (notAll : definition.mode ≠ .all)
    (found : definition.registry.find? name = some reference) (content : String) :
    definition.value name content = definition.valueAs reference.kind name content := by
  rw [value, valueAs, Registry.resolve_eq_ok_iff.mpr found]
  exact congrArg (valueOn reference · content) (kinds_of_ne_all notAll reference)

theorem range_of_ne_all (notAll : definition.mode ≠ .all)
    (found : definition.registry.find? name = some reference) (comparison : Option Comparison)
    (bound : String) :
    definition.range name comparison bound =
      definition.rangeAs reference.kind name comparison bound := by
  rw [range, rangeAs, Registry.resolve_eq_ok_iff.mpr found]
  exact congrArg (rangeOn reference · comparison bound) (kinds_of_ne_all notAll reference)

end Named

/--
How the recipes agree that ask for a container by its name.  All of them fail for a name that is not
taken, even if a comparison is missing, too; for a name that is taken, those fail that have to
compare without a comparison, and the others succeed.  In the mode for all, the two given forms are
made alternatives, and in another mode the registered kind chooses between them.  The given forms do
not depend on the mode, every comparison is made in the declared type, and neither the default
namespace nor the root has a say in any recipe.
-/
theorem named_recipes_agree (definition : Definition) (name : String) :
    (∀ recipe : Recipe, recipe.asked? = some name →
      (definition.registry.contains name = false →
        recipe.make definition = .error (.unknownReference name)) ∧
      (definition.registry.contains name = true → recipe.LacksComparison →
        recipe.make definition = .error (.comparisonMissing name)) ∧
      (definition.registry.contains name = true → ¬recipe.LacksComparison →
        ∃ query, recipe.make definition = .ok query)) ∧
    (definition.mode = .all →
      (∀ content, definition.value name content = (do
        let asProperty ← definition.valueAs .property name content
        let asElement ← definition.valueAs .element name content
        Query.disjunction [asProperty, asElement])) ∧
      ∀ comparison bound, definition.range name comparison bound = (do
        let asProperty ← definition.rangeAs .property name comparison bound
        let asElement ← definition.rangeAs .element name comparison bound
        Query.disjunction [asProperty, asElement])) ∧
    (∀ reference, definition.registry.resolve name = .ok reference →
      (definition.mode ≠ .all →
        (∀ content, definition.value name content =
          definition.valueAs reference.kind name content) ∧
        ∀ comparison bound, definition.range name comparison bound =
          definition.rangeAs reference.kind name comparison bound) ∧
      ∀ (recipe : Recipe) (query : Query), recipe.asked? = some name →
        recipe.make definition = .ok query →
          ∀ node ∈ query.nodes, ComparesAs (reference.rangeType.getD "xs:string") node) ∧
    (∀ mode kind,
      (∀ content, (definition.setMode mode).valueAs kind name content =
        definition.valueAs kind name content) ∧
      ∀ comparison bound, (definition.setMode mode).rangeAs kind name comparison bound =
        definition.rangeAs kind name comparison bound) ∧
    ∀ (recipe : Recipe) (space : String) (root : Option Query),
      recipe.make { definition with defaultSpace := space, root := root } =
        recipe.make definition := by
  refine ⟨?_, ?_, ?_, ?_, ?_⟩
  · intro recipe asks
    refine ⟨?_, ?_, ?_⟩
    · intro free
      refine Recipe.make_of_unknown asks ?_
      exact Option.isNone_iff_eq_none.mp (Option.isSome_eq_false_iff.mp free)
    · intro taken lacks
      obtain ⟨reference, found⟩ := Option.isSome_iff_exists.mp taken
      rw [Recipe.make_of_found asks found, Recipe.on_of_lacksComparison lacks,
        Registry.name_of_find? found]
    · intro taken compares
      obtain ⟨reference, found⟩ := Option.isSome_iff_exists.mp taken
      rw [Recipe.make_of_found asks found]
      exact Recipe.exists_on asks compares
  · intro all
    exact ⟨value_of_all all name, range_of_all all name⟩
  · intro reference resolved
    have found := Registry.resolve_eq_ok_iff.mp resolved
    constructor
    · intro notAll
      exact ⟨value_of_ne_all notAll found, range_of_ne_all notAll found⟩
    · intro recipe query asks made
      rw [Recipe.make_of_found asks found] at made
      exact Recipe.comparesAs_of_on asks made
  · intro mode kind
    exact ⟨fun _ => rfl, fun _ _ => rfl⟩
  · intro recipe space root
    exact Recipe.make_congr rfl rfl recipe

def tariffDefinition : Definition where
  mode := .all
  registry := {
    references :=
      [{ name := "tariff", target := "rate", kind := .element, rangeType := some "xs:decimal" }]
    distinct := by decide }

/-- Only the name that was registered can be asked for, and it is compared in the declared type. -/
theorem named_recipes_agree_tariffDefinition :
    (Recipe.rangeAs .property "rate" none "7").make tariffDefinition =
        .error (.unknownReference "rate") ∧
      (Recipe.range "tariff" none "7").make tariffDefinition =
        .error (.comparisonMissing "tariff") ∧
      (∃ query, (Recipe.value "tariff" "7").make tariffDefinition = .ok query) ∧
      tariffDefinition.range "tariff" (some .le) "7" = (do
        let asProperty ← tariffDefinition.rangeAs .property "tariff" (some .le) "7"
        let asElement ← tariffDefinition.rangeAs .element "tariff" (some .le) "7"
        Query.disjunction [asProperty, asElement]) ∧
      (∃ query, tariffDefinition.range "tariff" (some .le) "7" = .ok query ∧
        .range (.property "rate") (some .le) "7" "xs:decimal" ∈ query.nodes ∧
        ∀ node ∈ query.nodes, ComparesAs "xs:decimal" node) ∧
      (tariffDefinition.setMode .json).value "tariff" "7" =
        tariffDefinition.valueAs .element "tariff" "7" := by
  obtain ⟨outcomes, ofAll, ofReference, -, -⟩ := named_recipes_agree tariffDefinition "tariff"
  obtain ⟨ofUnknown, -⟩ := named_recipes_agree tariffDefinition "rate"
  obtain ⟨-, -, inJson, -, -⟩ := named_recipes_agree (tariffDefinition.setMode .json) "tariff"
  obtain ⟨-, compared⟩ := ofReference _ rfl
  refine ⟨?_, ?_, ?_, ?_, ?_, ?_⟩
  · exact (ofUnknown (.rangeAs .property "rate" none "7") rfl).1 rfl
  · exact (outcomes (.range "tariff" none "7") rfl).2.1 rfl trivial
  · exact (outcomes (.value "tariff" "7") rfl).2.2 rfl id
  · exact (ofAll rfl).2 (some .le) "7"
  · refine ⟨_, rfl, by decide, ?_⟩
    exact compared (.range "tariff" (some .le) "7") _ rfl rfl
  · exact ((inJson _ rfl).1 nofun).1 "7"

end SearchRequest.Definition

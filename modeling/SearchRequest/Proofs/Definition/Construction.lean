import SearchRequest.Proofs.Definition.Recipes
import SearchRequest.Proofs.Query.Faults

/-!
# Queries that recipes make

A query is made step by step: each recipe combines what earlier ones have made, and between two
steps the definition may change in any way.  The recipes check in advance what encoding checks
later.  So a query that is made without texts can be encoded either way, and a query with texts can
be encoded in the way that they are meant for.
-/

namespace SearchRequest.Definition

/--
The queries that come of a recipe whose parts come of recipes, too.  Each recipe is used on some
definition, whatever its state, and takes a text over only where that is allowed.
-/
inductive Built (allowed : Definition → String → Prop) : Query → Prop where
  | made (definition : Definition) (recipe : Recipe) {query : Query}
      (texts : ∀ text ∈ recipe.text?, allowed definition text)
      (parts : ∀ part ∈ recipe.parts, Built allowed part)
      (made : recipe.make definition = .ok query) : Built allowed query

def Never (_ : Definition) (_ : String) : Prop :=
  False

/-- A text may be taken over if it shows something and is meant for the encoding. -/
def VisibleIn (encoding : Encoding) (definition : Definition) (text : String) : Prop :=
  Text.isBlank text = false ∧ definition.encoding = encoding

/-! ## Single nodes -/

/-- What holds of every node of a query that recipes make. -/
structure Sound (allowed : Definition → String → Prop) (node : Query) : Prop where
  /-- Only a text can be a fault. -/
  faultless : node.kind ≠ .verbatim → ∀ encoding, node.ownFault? encoding = none
  /-- No element is in the empty namespace. -/
  qualified : ∀ element ∈ node.element?, element.space ≠ some ""
  /-- A text was allowed, and it is meant for the encoding of the definition that took it over. -/
  authored : ∀ text encoding, node = .verbatim text encoding →
    ∃ definition, allowed definition text ∧ definition.encoding = encoding

namespace Sound

variable {allowed : Definition → String → Prop}

theorem verbatim {definition : Definition} {text : String} (may : allowed definition text) :
    Sound allowed (definition.verbatim text) where
  faultless named := absurd rfl named
  qualified _ mem := by cases mem
  authored _ _ same := by
    cases same
    exact ⟨definition, may, rfl⟩

/-- A node that is no text only has to be without a fault and outside the empty namespace. -/
theorem ofNamed {node : Query} (named : node.kind ≠ .verbatim)
    (faultless : ∀ encoding, node.ownFault? encoding = none)
    (qualified : ∀ element ∈ node.element?, element.space ≠ some "") : Sound allowed node where
  faultless _ := faultless
  qualified := qualified
  authored _ _ same := by
    subst same
    exact absurd rfl named

theorem allOf {queries : List Query} (someQuery : queries ≠ []) :
    Sound allowed (.allOf queries) := by
  refine ofNamed nofun (fun encoding => ?_) nofun
  cases queries with
  | nil => exact absurd rfl someQuery
  | cons query rest => rfl

theorem anyOf {queries : List Query} (someQuery : queries ≠ []) :
    Sound allowed (.anyOf queries) := by
  refine ofNamed nofun (fun encoding => ?_) nofun
  cases queries with
  | nil => exact absurd rfl someQuery
  | cons query rest => rfl

/-- A reference never stands for an element in the empty namespace. -/
theorem space_ne_of_container {reference : Reference} {kind : Container.Kind}
    {element : QualifiedName} (same : reference.container kind = .element element) :
    element.space ≠ some "" := by
  cases kind <;> cases same
  intro empty
  obtain ⟨-, kept⟩ := Option.filter_eq_some_iff.mp empty
  simp at kept

theorem equals (reference : Reference) (kind : Container.Kind) (content : String) :
    Sound allowed (.equals (reference.container kind) content) := by
  cases named : reference.container kind with
  | property name => exact ofNamed nofun (fun _ => rfl) nofun
  | element name =>
      refine ofNamed nofun (fun _ => rfl) ?_
      rintro _ ⟨⟩
      exact space_ne_of_container named

theorem range (reference : Reference) (kind : Container.Kind) (comparison : Comparison)
    (bound rangeType : String) :
    Sound allowed (.range (reference.container kind) (some comparison) bound rangeType) := by
  cases named : reference.container kind with
  | property name => exact ofNamed nofun (fun _ => rfl) nofun
  | element name =>
      refine ofNamed nofun (fun _ => rfl) ?_
      rintro _ ⟨⟩
      exact space_ne_of_container named

end Sound

/-! ## Whole queries -/

section Alternatives

variable {allowed : Definition → String → Prop} {reference : Reference}
  {kinds : List Container.Kind} {query : Query}

theorem sound_oneOrAny {queries : List Query}
    (each : ∀ query ∈ queries, ∀ node ∈ query.nodes, Sound allowed node)
    (made : Query.oneOrAny queries = .ok query) : ∀ node ∈ query.nodes, Sound allowed node :=
  forall_nodes_of_oneOrAny .anyOf each made

theorem sound_valueOn {content : String} (made : valueOn reference kinds content = .ok query) :
    ∀ node ∈ query.nodes, Sound allowed node := by
  refine sound_oneOrAny (List.forall_mem_map.mpr fun kind _ => ?_) made
  have sound : Sound allowed (.equals (reference.container kind) content) := .equals ..
  cases kind <;> exact List.forall_mem_singleton.mpr sound

theorem sound_rangeOn {comparison : Option Comparison} {bound : String}
    (made : rangeOn reference kinds comparison bound = .ok query) :
    ∀ node ∈ query.nodes, Sound allowed node := by
  cases comparison with
  | none => cases made
  | some comparison =>
      refine sound_oneOrAny (List.forall_mem_map.mpr fun kind _ => ?_) made
      exact List.forall_mem_singleton.mpr (.range ..)

end Alternatives

namespace Built

variable {allowed : Definition → String → Prop} {encoding : Encoding} {query : Query}

/-- Whatever recipes make is sound in every node. -/
theorem sound (built : Built allowed query) : ∀ node ∈ query.nodes, Sound allowed node := by
  -- The parts are needed where a recipe combines them; any other recipe makes its nodes itself.
  induction built with
  | made definition recipe texts _ made ih =>
      cases recipe with
      | value name content =>
          obtain ⟨_, -, made⟩ := value_eq_ok_iff.mp made
          exact sound_valueOn made
      | valueAs kind name content =>
          obtain ⟨_, -, made⟩ := valueAs_eq_ok_iff.mp made
          exact sound_valueOn made
      | range name comparison bound =>
          obtain ⟨_, -, made⟩ := range_eq_ok_iff.mp made
          exact sound_rangeOn made
      | rangeAs kind name comparison bound =>
          obtain ⟨_, -, made⟩ := rangeAs_eq_ok_iff.mp made
          exact sound_rangeOn made
      | verbatim text =>
          cases made
          exact List.forall_mem_singleton.mpr (.verbatim (texts text rfl))
      | inCollections names =>
          cases made
          exact List.forall_mem_singleton.mpr (.ofNamed nofun (fun _ => rfl) nofun)
      | atUris uris =>
          cases made
          exact List.forall_mem_singleton.mpr (.ofNamed nofun (fun _ => rfl) nofun)
      | conjunction queries =>
          obtain ⟨someQuery, rfl⟩ := Query.conjunction_eq_ok_iff.mp made
          exact Query.forall_nodes_allOf.mpr ⟨.allOf someQuery, ih⟩
      | disjunction queries =>
          obtain ⟨someQuery, rfl⟩ := Query.disjunction_eq_ok_iff.mp made
          exact Query.forall_nodes_anyOf.mpr ⟨.anyOf someQuery, ih⟩
      | negation inner =>
          obtain ⟨part, rfl, rfl⟩ := Query.negation_eq_ok_iff.mp made
          exact Query.forall_nodes_negate.mpr
            ⟨.ofNamed nofun (fun _ => rfl) nofun, ih part List.mem_cons_self⟩

/-- No element of a query that recipes make is in the empty namespace. -/
theorem space_ne (built : Built allowed query) :
    ∀ element ∈ query.elements, element.space ≠ some "" := by
  intro element mem
  obtain ⟨node, inside, own⟩ := List.mem_filterMap.mp mem
  exact (built.sound node inside).qualified element own

/-- Such a query is without texts exactly if none had to be taken over to make it. -/
theorem verbatimFree_iff (built : Built allowed query) :
    query.VerbatimFree ↔ Built Never query := by
  constructor
  · intro free
    induction built with
    | made definition recipe texts parts made ih =>
        refine .made definition recipe ?texts ?parts made
        case parts => exact fun part mem => ih part mem (Recipe.free_part made free mem)
        intro text taken
        cases Recipe.eq_verbatim_of_text? made taken
        exact Query.not_verbatimFree_verbatim _ _ free
  · intro never
    refine Query.verbatimFree_iff.mpr fun node inside verbatim => ?_
    cases node <;> cases verbatim
    obtain ⟨_, forbidden, -⟩ := (never.sound _ inside).authored _ _ rfl
    exact forbidden

/-- A query can be encoded either way if no text was taken over on the way to it. -/
theorem fault?_eq_none (built : Built Never query) (encoding : Encoding) :
    query.fault? encoding = none := by
  have free := built.verbatimFree_iff.mpr built
  exact Query.fault?_eq_none_iff.mpr fun node inside =>
    (built.sound node inside).faultless (free.kind_ne inside) encoding

/-- In a query with texts for one encoding, the texts alone are faults in another one. -/
theorem ownFault?_eq (built : Built (VisibleIn encoding) query) (target : Encoding)
    {node : Query} (inside : node ∈ query.nodes) :
    node.ownFault? target =
      if node.kind = .verbatim ∧ encoding ≠ target then some (.wrongEncoding encoding target)
      else none := by
  have sound := built.sound node inside
  by_cases verbatim : node.kind = .verbatim
  · cases node <;> cases verbatim
    obtain ⟨definition, ⟨visible, rfl⟩, rfl⟩ := sound.authored _ _ rfl
    simp [Query.ownFault?, visible, Query.kind]
  · rw [sound.faultless verbatim target, if_neg (verbatim ·.1)]

/-- A query with texts for one encoding can be encoded that way. -/
theorem fault?_eq_none_of_visibleIn (built : Built (VisibleIn encoding) query) :
    query.fault? encoding = none := by
  refine Query.fault?_eq_none_iff.mpr fun node inside => ?_
  rw [built.ownFault?_eq encoding inside, if_neg (·.2 rfl)]

/-- A query with texts for one encoding cannot be encoded in another way. -/
theorem fault?_eq_some_of_visibleIn (built : Built (VisibleIn encoding) query)
    (withText : ¬query.VerbatimFree) {target : Encoding} (other : target ≠ encoding) :
    query.fault? target = some (.wrongEncoding encoding target) := by
  obtain ⟨node, inside, verbatim⟩ : ∃ node ∈ query.nodes, node.kind = .verbatim := by
    simpa [Query.verbatimFree_iff] using withText
  refine Query.fault?_eq_some_of_only inside ?_ fun node inside fault own => ?_
  · rw [built.ownFault?_eq target inside, if_pos ⟨verbatim, other.symm⟩]
  · rw [built.ownFault?_eq target inside, Option.ite_none_right_eq_some] at own
    exact (Option.some.inj own.2).symm

end Built

/--
What can be said of a query that recipes make step by step, each on a definition in any state.  It
holds texts exactly if some had to be taken over, and no element of it is in the empty namespace.
Without texts it has no fault and can be encoded either way.  With texts that show something and
are all meant for one encoding, it can be encoded that way and no other.
-/
theorem encode_of_built (query : Query) :
    (∀ allowed, Built allowed query →
      (query.VerbatimFree ↔ Built Never query) ∧
        ∀ element ∈ query.elements, element.space ≠ some "") ∧
    (Built Never query → ∀ encoding,
      query.fault? encoding = none ∧ ∃ text, query.encode encoding = .ok text) ∧
    (∀ encoding, Built (VisibleIn encoding) query → ¬query.VerbatimFree →
      (∃ text, query.encode encoding = .ok text) ∧
        ∀ target, target ≠ encoding →
          query.encode target = .error (.wrongEncoding encoding target)) := by
  refine ⟨?_, ?_, ?_⟩
  · intro allowed built
    exact ⟨built.verbatimFree_iff, built.space_ne⟩
  · intro built encoding
    have faultless := built.fault?_eq_none encoding
    exact ⟨faultless, _, Query.encode_eq_ok_iff.mpr ⟨faultless, rfl⟩⟩
  · intro encoding built withText
    refine ⟨⟨_, Query.encode_eq_ok_iff.mpr ⟨built.fault?_eq_none_of_visibleIn, rfl⟩⟩, ?_⟩
    intro target other
    exact Query.encode_eq_error_iff.mpr (built.fault?_eq_some_of_visibleIn withText other)

def costDefinition (mode : Mode) : Definition where
  mode := mode
  registry := { references := [.ofElement "price" "cost" (some "")], distinct := by decide }

def costQuery : Query :=
  .allOf [.anyOf [.propertyEquals "cost" "7", .elementEquals { name := "cost" } "7"],
    .negate (.range (.element { name := "cost" }) (some .gt) "9" defaultRangeType)]

theorem built_costQuery {allowed : Definition → String → Prop} : Built allowed costQuery := by
  have either : Built allowed _ :=
    .made (costDefinition .all) (.value "price" "7") nofun nofun rfl
  have more : Built allowed _ :=
    .made (costDefinition .xml) (.range "price" (some .gt) "9") nofun nofun rfl
  have notMore : Built allowed _ :=
    .made {} (.negation (some _)) nofun (List.forall_mem_singleton.mpr more) rfl
  exact .made {} (.conjunction _) nofun
    (List.forall_mem_cons.mpr ⟨either, List.forall_mem_singleton.mpr notMore⟩) rfl

def costOrText : Query :=
  .anyOf [costQuery, .verbatim "<x/>" .xml]

theorem built_costOrText : Built (VisibleIn .xml) costOrText := by
  have visible : VisibleIn .xml (costDefinition .xml) "<x/>" := ⟨by decide, rfl⟩
  have text := Built.made (costDefinition .xml) (.verbatim "<x/>")
    (by rintro _ ⟨⟩; exact visible) nofun rfl
  exact .made {} (.disjunction _) nofun
    (List.forall_mem_cons.mpr ⟨built_costQuery, List.forall_mem_singleton.mpr text⟩) rfl

/-- The query can be encoded either way, but with the text only as XML. -/
theorem encode_of_built_costQuery :
    (Built Never costQuery ∧
      (costQuery.VerbatimFree ↔ Built Never costQuery) ∧
      (∀ element ∈ costQuery.elements, element.space ≠ some "") ∧
      ∀ encoding, costQuery.fault? encoding = none ∧
        ∃ text, costQuery.encode encoding = .ok text) ∧
    Built (VisibleIn .xml) costOrText ∧ ¬costOrText.VerbatimFree ∧
    (∃ text, costOrText.encode .xml = .ok text) ∧
    costOrText.encode .json = .error (.wrongEncoding .xml .json) := by
  have withText : ¬costOrText.VerbatimFree := by decide
  obtain ⟨every, plain, -⟩ := encode_of_built costQuery
  obtain ⟨-, -, visible⟩ := encode_of_built costOrText
  obtain ⟨encoded, refused⟩ := visible .xml built_costOrText withText
  obtain ⟨freeIff, qualified⟩ := every Never built_costQuery
  exact ⟨⟨built_costQuery, freeIff, qualified, plain built_costQuery⟩, built_costOrText, withText,
    encoded, refused .json nofun⟩

end SearchRequest.Definition

import SearchRequest.Proofs.Query.Alike
import SearchRequest.Proofs.Query.Elements
import SearchRequest.Proofs.Query.Verdict

/-!
# Queries in the default namespace

A namespace is supplied to the elements that have none, and to nothing else; of several namespaces
that are supplied one after the other, the first one that is not empty counts.  The walk over a
query goes through the same places as before, and the same nodes are faulty.  Their errors differ
at most in the namespace that was supplied.
-/

namespace SearchRequest

/-! ## Names of elements -/

namespace QualifiedName

/-- The second name is the first one with the namespace that was supplied. -/
inductive Supplied (space : String) : QualifiedName → QualifiedName → Prop where
  /-- A namespace that a name has is kept, even the empty one, which is never supplied itself. -/
  | kept {name : QualifiedName} (settled : name.space ≠ none ∨ space = "") :
      Supplied space name name
  | given (name : String) (nonempty : space ≠ "") : Supplied space ⟨name, none⟩ ⟨name, some space⟩

variable {space : String} {name name' : QualifiedName}

/-- A name is kept as it is, or it had no namespace and has the supplied one now. -/
theorem qualify_cases (space : String) (name : QualifiedName) :
    ((name.space ≠ none ∨ space = "") ∧ name.qualify space = name) ∨
      (space ≠ "" ∧ ∃ own, name = ⟨own, none⟩ ∧ name.qualify space = ⟨own, some space⟩) := by
  obtain ⟨own, ownSpace⟩ := name
  cases ownSpace with
  | some _ => exact .inl ⟨.inl nofun, rfl⟩
  | none =>
      by_cases empty : space = ""
      · exact .inl ⟨.inr empty, if_neg fun missing => missing.2 empty⟩
      · exact .inr ⟨empty, own, rfl, if_pos ⟨rfl, empty⟩⟩

theorem supplied_qualify (space : String) (name : QualifiedName) :
    Supplied space name (name.qualify space) := by
  rcases name.qualify_cases space with ⟨settled, same⟩ | ⟨nonempty, own, rfl, same⟩
  · rw [same]
    exact .kept settled
  · rw [same]
    exact .given own nonempty

theorem Supplied.qualify_eq (supplied : Supplied space name name') :
    name.qualify space = name' := by
  cases supplied with
  | kept settled =>
      refine if_neg ?_
      rintro ⟨missing, nonempty⟩
      exact settled.elim (· missing) nonempty
  | given own nonempty => exact if_pos ⟨rfl, nonempty⟩

@[simp]
theorem qualify_empty (name : QualifiedName) : name.qualify "" = name :=
  if_neg fun missing => missing.2 rfl

/-- A namespace that is not empty leaves no name without one. -/
theorem space_qualify_ne (nonempty : space ≠ "") : (name.qualify space).space ≠ none := by
  rcases name.qualify_cases space with ⟨settled, same⟩ | ⟨-, own, rfl, same⟩
  · rw [same]
    exact settled.resolve_right nonempty
  · rw [same]
    exact Option.some_ne_none space

theorem qualify_qualify (first second : String) (name : QualifiedName) :
    (name.qualify first).qualify second =
      name.qualify (if first = "" then second else first) := by
  by_cases empty : first = ""
  · rw [if_pos empty, empty, qualify_empty]
  · rw [if_neg empty]
    exact if_neg fun missing => space_qualify_ne empty missing.1

/-- Only the empty namespace, where it was stated, is still written afterwards. -/
theorem writtenSpace_qualify_ne (nonempty : space ≠ "") (stated : name.space ≠ some "") :
    (name.qualify space).writtenSpace ≠ "" := by
  rcases name.qualify_cases space with ⟨settled, same⟩ | ⟨-, own, rfl, same⟩
  · obtain ⟨ownSpace, named⟩ := Option.ne_none_iff_exists'.mp (settled.resolve_right nonempty)
    rw [same, writtenSpace, named]
    rintro rfl
    exact stated named
  · rw [same]
    exact nonempty

end QualifiedName

/-! ## Errors -/

/-- The same error with a namespace supplied to the element that it is about. -/
def Error.qualify (space : String) : Error → Error
  | .comparisonUnset container => .comparisonUnset (container.qualify space)
  | error => error

/-- The messages about elements of one name differ in the place of the namespace only. -/
theorem Error.exists_message_eq (name : String) : ∃ front back,
    message (.comparisonUnset (.element ⟨name, none⟩)) = front ++ "None" ++ back ∧
    ∀ space, message (.comparisonUnset (.element ⟨name, some space⟩)) =
      front ++ ("Some(" ++ Text.diagnostic space ++ ")") ++ back := by
  have regroup (before front shown back behind : String) :
      before ++ (front ++ shown ++ back) ++ behind =
        before ++ front ++ shown ++ (back ++ behind) := by
    simp only [String.append_assoc]
  exact ⟨_, _, regroup _ _ _ _ _, fun space => regroup _ _ _ _ _⟩

/-- An error stays as it is, or it is about an element and shows the supplied namespace now. -/
theorem Error.qualify_cases (space : String) (error : Error) :
    error.qualify space = error ∨
      space ≠ "" ∧ ∃ name, error = .comparisonUnset (.element ⟨name, none⟩) ∧
        error.qualify space = .comparisonUnset (.element ⟨name, some space⟩) := by
  cases error with
  | comparisonUnset container =>
      cases container with
      | property name => exact .inl rfl
      | element name =>
          rw [qualify, Container.qualify]
          rcases name.qualify_cases space with ⟨-, same⟩ | ⟨nonempty, own, rfl, same⟩
          · rw [same]
            exact .inl rfl
          · rw [same]
            exact .inr ⟨nonempty, own, rfl, rfl⟩
  | _ => exact .inl rfl

namespace Query

/-! ## Whole queries -/

/-- The second leaf is the first one with the namespace that was supplied. -/
inductive Supplied (space : String) : Query → Query → Prop where
  | untouched {leaf : Query} (isLeaf : leaf.leaf? = some leaf) (noElement : leaf.element? = none) :
      Supplied space leaf leaf
  | elementEquals {name name' : QualifiedName} (supplied : name.Supplied space name')
      (value : String) : Supplied space (.elementEquals name value) (.elementEquals name' value)
  | range {name name' : QualifiedName} (supplied : name.Supplied space name')
      (comparison : Option Comparison) (bound rangeType : String) :
      Supplied space (.range (.element name) comparison bound rangeType)
        (.range (.element name') comparison bound rangeType)

theorem qualify_empty (query : Query) : query.qualify "" = query := by
  rw [qualify_eq_mapElements, mapElements_eq_self_iff]
  intro element _
  exact element.qualify_empty

/-- Of two namespaces, the first one counts unless it is empty. -/
theorem qualify_qualify (first second : String) (query : Query) :
    (query.qualify first).qualify second =
      query.qualify (if first = "" then second else first) := by
  rw [qualify_eq_mapElements, qualify_eq_mapElements, qualify_eq_mapElements,
    mapElements_mapElements]
  congr 1
  funext name
  exact name.qualify_qualify first second

theorem nodes_qualify (space : String) (query : Query) :
    (query.qualify space).nodes = query.nodes.map (qualify space) := by
  rw [qualify_eq_mapElements, nodes_mapElements, funext (qualify_eq_mapElements space)]

theorem Supplied.qualify_eq {space : String} {leaf leaf' : Query}
    (supplied : Supplied space leaf leaf') : leaf.qualify space = leaf' := by
  cases supplied with
  | untouched isLeaf noElement =>
      cases leaf with
      | range container comparison bound rangeType =>
          cases container with
          | property name => rfl
          | element name => cases noElement
      | elementEquals name value => cases noElement
      | allOf queries => cases isLeaf
      | anyOf queries => cases isLeaf
      | negate query => cases isLeaf
      | _ => rfl
  | elementEquals supplied value => rw [qualify, supplied.qualify_eq]
  | range supplied comparison bound rangeType =>
      rw [qualify, Container.qualify, supplied.qualify_eq]

theorem alike_qualify (space : String) (query : Query) :
    Alike (Supplied space) query (query.qualify space) := by
  have ofAll {queries : List Query}
      (ofEach : ∀ query ∈ queries, Alike (Supplied space) query (query.qualify space)) :
      List.Forall₂ (Alike (Supplied space)) queries (queries.map (qualify space)) :=
    List.forall₂_map_right_iff.mpr (List.forall₂_same.mpr ofEach)
  induction query using Query.induction with
  | elementEquals name value => exact .leaf (.elementEquals (name.supplied_qualify space) value)
  | range container comparison bound rangeType =>
      cases container with
      | property name => exact .leaf (.untouched rfl rfl)
      | element name =>
          exact .leaf (.range (name.supplied_qualify space) comparison bound rangeType)
  | allOf queries ih =>
      rw [qualify, qualifyAll_eq_map]
      exact .allOf (ofAll ih)
  | anyOf queries ih =>
      rw [qualify, qualifyAll_eq_map]
      exact .anyOf (ofAll ih)
  | negate query ih => exact .negate ih
  | _ => exact .leaf (.untouched rfl rfl)

/-- There is one way to supply a namespace in all places of a query. -/
theorem Alike.qualify_eq {space : String} {query query' : Query}
    (alike : Alike (Supplied space) query query') : query.qualify space = query' := by
  have ofAll {queries queries' : List Query}
      (each : List.Forall₂ (fun query query' => query.qualify space = query') queries queries') :
      qualifyAll space queries = queries' := by
    rw [qualifyAll_eq_map, ← List.map_id queries', Traversal.map_eq_map_iff]
    exact each
  refine alike.induction (motive := fun query query' => query.qualify space = query')
    ?leaf ?allOf ?anyOf ?negate
  case leaf => exact fun leaf leaf' supplied => supplied.qualify_eq
  case allOf => exact fun queries queries' each => congrArg Query.allOf (ofAll each)
  case anyOf => exact fun queries queries' each => congrArg Query.anyOf (ofAll each)
  case negate => exact fun query query' inner => congrArg Query.negate inner

/-! ## Faults -/

section Faults

variable {encoding : Encoding} {query : Query} {space : String}

/-- A node is as faulty in the default namespace as without it. -/
theorem ownFault?_qualify (space : String) (node : Query) :
    (node.qualify space).ownFault? encoding =
      (node.ownFault? encoding).map (Error.qualify space) := by
  cases node with
  | verbatim text authored =>
      rw [qualify, ownFault?]
      split
      · rfl
      · split <;> rfl
  | range container comparison bound rangeType => cases comparison <;> rfl
  | allOf queries => cases queries <;> rfl
  | anyOf queries => cases queries <;> rfl
  | _ => rfl

theorem fault?_qualify (space : String) (query : Query) :
    (query.qualify space).fault? encoding = (query.fault? encoding).map (Error.qualify space) := by
  rw [fault?_eq_findSome?, fault?_eq_findSome?, nodes_qualify, List.findSome?_map,
    List.map_findSome?]
  congr 1
  funext node
  exact ownFault?_qualify space node

/-- The first faulty node on the walk over a query stands in this place and has this error. -/
structure FirstFaultAt (encoding : Encoding) (query : Query) (place : Nat) (node : Query)
    (error : Error) : Prop where
  stands : query.nodes[place]? = some node
  faulty : Faulty encoding node error
  first : ∀ earlier ∈ query.nodes.take place, ∀ other, ¬Faulty encoding earlier other

theorem exists_firstFaultAt {error : Error} (fault : query.fault? encoding = some error) :
    ∃ place node, query.FirstFaultAt encoding place node error := by
  obtain ⟨before, node, after, walk, faulty, first⟩ := fault?_eq_some_iff_firstFault.mp fault
  refine ⟨before.length, node, ?_, faulty, ?_⟩
  · rw [walk, List.getElem?_append_right (Nat.le_refl _), Nat.sub_self, List.getElem?_cons_zero]
  · rw [walk, List.take_left]
    exact first

theorem Faulty.qualify {node : Query} {error : Error} (faulty : Faulty encoding node error)
    (space : String) : Faulty encoding (node.qualify space) (error.qualify space) := by
  rw [← ownFault?_eq_some_iff] at faulty ⊢
  rw [ownFault?_qualify, faulty]
  rfl

theorem FirstFaultAt.qualify {place : Nat} {node : Query} {error : Error}
    (fault : query.FirstFaultAt encoding place node error) (space : String) :
    (query.qualify space).FirstFaultAt encoding place (node.qualify space)
      (error.qualify space) where
  stands := by rw [nodes_qualify, List.getElem?_map, fault.stands, Option.map_some]
  faulty := fault.faulty.qualify space
  first := by
    rw [nodes_qualify, ← List.map_take, List.forall_mem_map]
    intro earlier mem
    rw [← ownFault?_eq_none_iff, ownFault?_qualify,
      ownFault?_eq_none_iff.mpr (fault.first earlier mem)]
    rfl

end Faults

/--
Supplying a namespace comes down to one change of a query.  The empty namespace changes nothing,
and of several namespaces the first one that is not empty counts.  The result differs from the query
in the elements that had no namespace, and in nothing else.  It can be written whenever the query
can, and where it cannot, the same node is at fault, for the same reason.
-/
theorem qualify_supplies_missing_spaces (query : Query) :
    query.qualify "" = query ∧
    (∀ first second, (query.qualify first).qualify second =
      query.qualify (if first = "" then second else first)) ∧
    ∀ space,
      (query.qualify space).qualify space = query.qualify space ∧
      (∀ query', Alike (Supplied space) query query' ↔ query.qualify space = query') ∧
      ∀ encoding,
        ((query.qualify space).fault? encoding = none ↔ query.fault? encoding = none) ∧
        ∀ error, query.fault? encoding = some error →
          (query.qualify space).fault? encoding = some (error.qualify space) ∧
          ∃ place node, query.FirstFaultAt encoding place node error ∧
            (query.qualify space).FirstFaultAt encoding place (node.qualify space)
              (error.qualify space) := by
  refine ⟨query.qualify_empty, fun first second => query.qualify_qualify first second, ?_⟩
  intro space
  refine ⟨?_, ?_, ?_⟩
  · rw [qualify_qualify, ite_id]
  · intro query'
    constructor
    · exact Alike.qualify_eq
    · rintro rfl
      exact query.alike_qualify space
  · intro encoding
    refine ⟨?_, ?_⟩
    · rw [fault?_qualify, Option.map_eq_none_iff]
    · intro error fault
      obtain ⟨place, node, firstFault⟩ := exists_firstFaultAt fault
      refine ⟨?_, place, node, firstFault, firstFault.qualify space⟩
      rw [fault?_qualify, fault, Option.map_some]

def stockQuery : Query :=
  .allOf [.elementEquals ⟨"sku", some ""⟩ "A1",
    .negate (.anyOf [.elementEquals ⟨"sku", some "urn:old"⟩ "B2",
      .range (.element ⟨"price", none⟩) none "7" "xs:int",
      .range (.property "price") none "7" "xs:int"])]

/-- The first of two namespaces goes to one element, whose comparison is missing as before. -/
theorem qualify_supplies_missing_spaces_stockQuery :
    (stockQuery.qualify "urn:shop").qualify "urn:late" = stockQuery.qualify "urn:shop" ∧
      stockQuery.qualify "urn:shop" =
        .allOf [.elementEquals ⟨"sku", some ""⟩ "A1",
          .negate (.anyOf [.elementEquals ⟨"sku", some "urn:old"⟩ "B2",
            .range (.element ⟨"price", some "urn:shop"⟩) none "7" "xs:int",
            .range (.property "price") none "7" "xs:int"])] ∧
      stockQuery.fault? .xml = some (.comparisonUnset (.element ⟨"price", none⟩)) ∧
      (stockQuery.qualify "urn:shop").fault? .xml =
        some (.comparisonUnset (.element ⟨"price", some "urn:shop"⟩)) ∧
      ∃ place node,
        stockQuery.FirstFaultAt .xml place node (.comparisonUnset (.element ⟨"price", none⟩)) ∧
        (stockQuery.qualify "urn:shop").FirstFaultAt .xml place (node.qualify "urn:shop")
          (.comparisonUnset (.element ⟨"price", some "urn:shop"⟩)) := by
  obtain ⟨-, twice, once⟩ := qualify_supplies_missing_spaces stockQuery
  obtain ⟨-, onlyWay, ofEncoding⟩ := once "urn:shop"
  obtain ⟨fault, place, node, firstFaults⟩ := (ofEncoding .xml).2 _ rfl
  refine ⟨twice "urn:shop" "urn:late", ?_, rfl, fault, place, node, firstFaults⟩
  refine (onlyWay _).mp (.allOf (.cons ?_ (.cons (.negate (.anyOf ?_)) .nil)))
  · exact .leaf (.elementEquals (.kept (.inl (Option.some_ne_none _))) "A1")
  · refine .cons ?_ (.cons ?_ (.cons ?_ .nil))
    · exact .leaf (.elementEquals (.kept (.inl (Option.some_ne_none _))) "B2")
    · exact .leaf (.range (.given "price" (by decide)) none "7" "xs:int")
    · exact .leaf (.untouched rfl rfl)

end Query

end SearchRequest

import SearchRequest.Proofs.Json.Meaning
import SearchRequest.Proofs.Json.Members

/-!
# Values with ordered members

The members of an object are ordered by key, and no key stands in it twice.  This is so in
every value that a text means, and everything inside such a value is like that again.
-/

namespace SearchRequest.Json

/-- The members of every object in the value are ordered by key, without repeated keys. -/
inductive Ordered : Json → Prop where
  | null : Ordered .null
  | bool (value : Bool) : Ordered (.bool value)
  | number (value : Number) : Ordered (.number value)
  | text (content : String) : Ordered (.text content)
  | array {items : List Json} (each : ∀ item ∈ items, Ordered item) : Ordered (.array items)
  | object {members : List (String × Json)} (keys : (members.map Prod.fst).Pairwise (· < ·))
      (each : ∀ member ∈ members, Ordered member.2) : Ordered (.object members)

theorem Ordered.single {key : String} {value : Json} (ordered : value.Ordered) :
    (single key value).Ordered := by
  refine .object (List.pairwise_singleton _ _) ?_
  rw [List.forall_mem_singleton]
  exact ordered

/-- What items and members take over from the value around them holds everywhere inside. -/
theorem Inside.inherits {holds : Json → Prop}
    (ofArray : ∀ items, holds (.array items) → ∀ item ∈ items, holds item)
    (ofObject : ∀ members, holds (.object members) → ∀ member ∈ members, holds member.2)
    {part whole : Json} (inside : part.Inside whole) (ofWhole : holds whole) : holds part := by
  induction inside with
  | item mem => exact ofArray _ ofWhole _ mem
  | member mem => exact ofObject _ ofWhole _ mem
  | trans inner outer ofInner ofOuter => exact ofInner (ofOuter ofWhole)

/-- What stands inside an ordered value is ordered. -/
theorem Ordered.of_inside {part whole : Json} (ordered : whole.Ordered)
    (inside : part.Inside whole) : part.Ordered := by
  refine inside.inherits ?_ ?_ ordered
  · intro items ofItems
    cases ofItems with
    | array each => exact each
  · intro members ofMembers
    cases ofMembers with
    | object keys each => exact each

/-! ## Ordered members stay as they are -/

/-- A member goes behind the others if its key does. -/
theorem insertMember_eq_append {key : String} {members : List (String × Json)}
    (behind : ∀ member ∈ members, member.1 < key) (value : Json) :
    insertMember key value members = members ++ [(key, value)] := by
  induction members with
  | nil => rfl
  | cons member rest ih =>
      obtain ⟨otherKey, otherValue⟩ := member
      rw [List.forall_mem_cons] at behind
      have notBefore : ¬key < otherKey := String.lt_asymm behind.1
      have different : key ≠ otherKey := by
        rintro rfl
        exact String.lt_irrefl key behind.1
      rw [insertMember, if_neg notBefore, if_neg different, ih behind.2, List.cons_append]

theorem foldl_insertMember {before members : List (String × Json)}
    (keys : ((before ++ members).map Prod.fst).Pairwise (· < ·)) :
    members.foldl (fun ordered member => insertMember member.1 member.2 ordered) before =
      before ++ members := by
  induction members generalizing before with
  | nil => rw [List.foldl_nil, List.append_nil]
  | cons member rest ih =>
      have behind : ∀ other ∈ before, other.1 < member.1 := by
        rw [List.map_append, List.pairwise_append] at keys
        intro other mem
        exact keys.2.2 other.1 (List.mem_map_of_mem mem) member.1 List.mem_cons_self
      rw [List.append_cons] at keys ⊢
      rw [List.foldl_cons, insertMember_eq_append behind]
      exact ih keys

/-- Ordered members are the members of the object that they make. -/
theorem ofMembers_eq_object {members : List (String × Json)}
    (keys : (members.map Prod.fst).Pairwise (· < ·)) : ofMembers members = .object members :=
  congrArg object (@foldl_insertMember [] members keys)

/-! ## Values of texts are ordered -/

theorem mem_insertMember {key : String} {value : Json} {members : List (String × Json)}
    {member : String × Json} (mem : member ∈ insertMember key value members) :
    member = (key, value) ∨ member ∈ members := by
  induction members with
  | nil => exact .inl (List.mem_singleton.mp mem)
  | cons first rest ih =>
      rw [insertMember] at mem
      split at mem
      · exact List.mem_cons.mp mem
      split at mem
      · exact (List.mem_cons.mp mem).imp_right (List.mem_cons_of_mem first)
      · rcases List.mem_cons.mp mem with rfl | inRest
        · exact .inr List.mem_cons_self
        · exact (ih inRest).imp_right (List.mem_cons_of_mem first)

theorem pairwise_insertMember {members : List (String × Json)}
    (keys : (members.map Prod.fst).Pairwise (· < ·)) (key : String) (value : Json) :
    ((insertMember key value members).map Prod.fst).Pairwise (· < ·) := by
  induction members with
  | nil => exact List.pairwise_singleton _ _
  | cons member rest ih =>
      obtain ⟨otherKey, otherValue⟩ := member
      rw [List.map_cons, List.pairwise_cons] at keys
      rw [insertMember]
      split
      · next before =>
          rw [List.map_cons, List.map_cons, List.pairwise_cons, List.pairwise_cons]
          refine ⟨?_, keys⟩
          rw [List.forall_mem_cons]
          exact ⟨before, fun other mem => String.lt_trans before (keys.1 other mem)⟩
      split
      · next same =>
          subst same
          exact List.pairwise_cons.mpr keys
      · next notBefore different =>
          have before : otherKey < key := by
            apply String.not_le.mp
            intro notBehind
            exact different (String.le_antisymm notBehind (String.not_lt.mp notBefore))
          rw [List.map_cons, List.pairwise_cons]
          refine ⟨?_, ih keys.2⟩
          rw [List.forall_mem_map]
          intro other mem
          rcases mem_insertMember mem with rfl | inRest
          · exact before
          · exact keys.1 other.1 (List.mem_map_of_mem inRest)

theorem ordered_ofMembers {members : List (String × Json)}
    (each : ∀ member ∈ members, member.2.Ordered) : (ofMembers members).Ordered := by
  have all : ∀ before : List (String × Json), (before.map Prod.fst).Pairwise (· < ·) →
      (∀ member ∈ before, member.2.Ordered) →
      (Json.object (members.foldl
        (fun ordered member => insertMember member.1 member.2 ordered) before)).Ordered := by
    induction members with
    | nil =>
        intro before keys ordered
        exact .object keys ordered
    | cons member rest ih =>
        rw [List.forall_mem_cons] at each
        intro before keys ordered
        refine ih each.2 _ (pairwise_insertMember keys member.1 member.2) ?_
        intro other mem
        rcases mem_insertMember mem with rfl | inBefore
        · exact each.1
        · exact ordered other inBefore
  exact all [] List.Pairwise.nil fun member mem => by cases mem

/-- The value of a spelling is ordered, whatever the order of the members in the text. -/
theorem ordered_of_value? {spelling : Spelling} {value : Json}
    (valued : spelling.value? = some value) : value.Ordered := by
  induction spelling using Spelling.induction generalizing value with
  | null => cases valued; exact .null
  | bool => cases valued; exact .bool _
  | number content =>
      obtain ⟨number, _, rfl⟩ := Option.map_eq_some_iff.mp valued
      exact .number number
  | text content =>
      obtain ⟨text, _, rfl⟩ := Option.map_eq_some_iff.mp valued
      exact .text text
  | array items ih =>
      obtain ⟨values, listed, rfl⟩ := Option.map_eq_some_iff.mp valued
      rw [Spelling.valueItems?_eq_mapM, Traversal.mapM_eq_some_iff] at listed
      refine .array (Traversal.forall_mem_of_forall₂ listed ?_)
      intro item mem value ofItem
      exact ih item mem ofItem
  | object members ih =>
      obtain ⟨values, listed, rfl⟩ := Option.map_eq_some_iff.mp valued
      rw [Spelling.valueMembers?_eq_mapM, Traversal.mapM_eq_some_iff] at listed
      refine ordered_ofMembers (Traversal.forall_mem_of_forall₂ listed ?_)
      rintro ⟨key, spelling⟩ mem value ofMember
      obtain ⟨name, _, named⟩ := Option.bind_eq_some_iff.mp ofMember
      obtain ⟨content, ofContent, made⟩ := Option.bind_eq_some_iff.mp named
      cases made
      exact ih (key, spelling) mem ofContent

/-- A value that is read from a text is ordered. -/
theorem ordered_of_ofText? {text : String} {value : Json} (read : ofText? text = some value) :
    value.Ordered := by
  obtain ⟨spelling, _, _, valued⟩ := ofText?_eq_some_iff.mp read
  exact ordered_of_value? valued

end SearchRequest.Json

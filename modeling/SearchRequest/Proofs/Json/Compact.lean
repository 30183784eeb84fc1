import SearchRequest.Proofs.Json.Integers
import SearchRequest.Proofs.Json.Ordered

/-!
# Compact texts read back

The compact text of a value is read as that value.  Texts, words, exact integers and the order
of members come back in every case; of a binary64 value it has to be known that its decimal
is read as the same value.
-/

namespace SearchRequest.Json

theorem draftItems_eq_map (items : List Json) : draftItems items = items.map draft := by
  induction items with
  | nil => rfl
  | cons item rest ih => rw [draftItems, List.map_cons, ih]

theorem draftMembers_eq_map (members : List (String × Json)) :
    draftMembers members = members.map fun member => (member.1, member.2.draft) := by
  induction members with
  | nil => rfl
  | cons member rest ih => rw [draftMembers, List.map_cons, ih]

/-- Every binary64 value in the value is read back from its decimal. -/
inductive RealsReadBack : Json → Prop where
  | null : RealsReadBack .null
  | bool (value : Bool) : RealsReadBack (.bool value)
  | integer {value : Int} (exact : IsExactInteger value) :
      RealsReadBack (.number (.integer value exact))
  | real {value : Binary64}
      (readBack : ofText? (Number.real value).written = some (.number (.real value))) :
      RealsReadBack (.number (.real value))
  | text (content : String) : RealsReadBack (.text content)
  | array {items : List Json} (each : ∀ item ∈ items, RealsReadBack item) :
      RealsReadBack (.array items)
  | object {members : List (String × Json)} (each : ∀ member ∈ members, RealsReadBack member.2) :
      RealsReadBack (.object members)

theorem RealsReadBack.of_inside {part whole : Json} (readBack : whole.RealsReadBack)
    (inside : part.Inside whole) : part.RealsReadBack := by
  refine inside.inherits ?_ ?_ readBack
  · intro items ofItems
    cases ofItems with
    | array each => exact each
  · intro members ofMembers
    cases ofMembers with
    | object each => exact each

theorem RealsReadBack.single {key : String} {value : Json} (readBack : value.RealsReadBack) :
    (single key value).RealsReadBack := by
  refine .object ?_
  rw [List.forall_mem_singleton]
  exact readBack

/-- A text that is written as it stands is read as what it means. -/
theorem Draft.reads_verbatim {written : String} {spelling : Spelling}
    (spelled : Spelling.ofText? written = some spelling) :
    (Draft.verbatim written).Legible ∧ (Draft.verbatim written).spelling = spelling := by
  constructor
  · intro text mem
    rw [List.mem_singleton.mp mem, spelled]
    rfl
  · rw [Draft.spelling, spelled, Option.getD_some]

/-- The compact text of the value is read as the value, apart from the limit on open brackets. -/
structure Printable (value : Json) : Prop where
  legible : value.draft.Legible
  valued : value.draft.spelling.value? = some value

theorem printable {value : Json} (ordered : value.Ordered) (readBack : value.RealsReadBack) :
    value.Printable := by
  induction ordered with
  | null =>
      have spelled : Spelling.ofText? "null" = some .null := rfl
      obtain ⟨legible, spelling⟩ := Draft.reads_verbatim spelled
      exact ⟨legible, by rw [draft, spelling, Spelling.value?]⟩
  | bool value =>
      have spelled : Spelling.ofText? (if value then "true" else "false") = some (.bool value) := by
        cases value <;> rfl
      obtain ⟨legible, spelling⟩ := Draft.reads_verbatim spelled
      exact ⟨legible, by rw [draft, Draft.bool, spelling, Spelling.value?]⟩
  | number value =>
      have spelled : Spelling.ofText? value.written = some (.number (some value)) := by
        cases readBack with
        | integer exact => exact ofText?_integerText exact
        | real readBack =>
            obtain ⟨spelling, spelled, _, valued⟩ := ofText?_eq_some_iff.mp readBack
            rwa [Spelling.value?_eq_number_iff.mp valued] at spelled
      obtain ⟨legible, spelling⟩ := Draft.reads_verbatim spelled
      exact ⟨legible, by rw [draft, spelling, Spelling.value?, Option.map_some]⟩
  | text content =>
      constructor
      · intro written mem
        cases mem
      · rfl
  | @array items each ih =>
      have ofItem (item : Json) (mem : item ∈ items) := ih item mem (readBack.of_inside (.item mem))
      constructor
      · rw [draft, draftItems_eq_map, Draft.legible_array, List.forall_mem_map]
        intro item mem
        exact (ofItem item mem).legible
      · have valued : (Draft.array (items.map draft)).spelling.value? =
            some (.array (items.map id)) :=
          Draft.value?_array fun item mem => (ofItem item mem).valued
        rwa [List.map_id, ← draftItems_eq_map] at valued
  | @object members keys each ih =>
      have ofMember (member : String × Json) (mem : member ∈ members) :=
        ih member mem (readBack.of_inside (.member mem))
      constructor
      · rw [draft, draftMembers_eq_map, Draft.legible_object, List.forall_mem_map]
        intro member mem
        exact (ofMember member mem).legible
      · have each : ∀ member ∈ members,
            ((fun entry : String × Draft => entry.2.spelling.value?.map (entry.1, ·)) ∘
              fun member : String × Json => (member.1, member.2.draft)) member =
            pure (id member) := by
          intro member mem
          change member.2.draft.spelling.value?.map (member.1, ·) = some member
          rw [(ofMember member mem).valued, Option.map_some]
        have listed : ((draftMembers members).mapM fun entry =>
            entry.2.spelling.value?.map (entry.1, ·)) = some members := by
          rw [draftMembers_eq_map, List.mapM_map, Traversal.mapM_eq_pure_map each, List.map_id]
          rfl
        rw [draft, Draft.value?_object listed, ofMembers_eq_object keys]

namespace Printable

variable {value : Json}

theorem spelled_compact (printable : value.Printable) :
    Spelling.ofText? value.compact = some value.draft.spelling :=
  printable.legible.ofText?_render

/-- The compact text of a value is read as that value, if it is not too deep. -/
theorem ofText?_compact (printable : value.Printable) (shallow : bracketDepth value.compact ≤ 127) :
    ofText? value.compact = some value := by
  rw [ofText?_eq printable.spelled_compact, if_pos shallow, printable.valued]

end Printable

end SearchRequest.Json

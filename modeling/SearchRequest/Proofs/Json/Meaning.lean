import SearchRequest.Json.Basic
import SearchRequest.Proofs.Json.Brackets
import SearchRequest.Proofs.Json.Rendering
import SearchRequest.Proofs.Traversal

/-!
# What a JSON text means

A text has a value if it is spelled correctly, every part of it has content, and it never
has more brackets open than the reader allows.  The first two conditions do not depend on
the last one.
-/

namespace SearchRequest.Json

namespace Spelling

mutual

/-- The value of a spelling, however deep it is. -/
def value? : Spelling → Option Json
  | .null => some .null
  | .bool value => some (.bool value)
  | .number value => value.map .number
  | .text content => content.map .text
  | .array items => (valueItems? items).map .array
  | .object members => (valueMembers? members).map ofMembers

def valueItems? : List Spelling → Option (List Json)
  | [] => some []
  | item :: rest => do return (← item.value?) :: (← valueItems? rest)

def valueMembers? : List (Option String × Spelling) → Option (List (String × Json))
  | [] => some []
  | (key, value) :: rest => do return (← key, ← value.value?) :: (← valueMembers? rest)

end

theorem valueItems?_eq_mapM (items : List Spelling) : valueItems? items = items.mapM value? := by
  induction items with
  | nil => rfl
  | cons item rest ih => rw [valueItems?, List.mapM_cons, ih]

theorem valueMembers?_eq_mapM (members : List (Option String × Spelling)) :
    valueMembers? members =
      members.mapM fun member => do return (← member.1, ← member.2.value?) := by
  induction members with
  | nil => rfl
  | cons member rest ih =>
      obtain ⟨key, value⟩ := member
      rw [valueMembers?, List.mapM_cons, ih]
      cases key with
      | none => rfl
      | some key => cases value.value? <;> rfl

/-- A limit on open brackets refuses what is deeper and has no other effect. -/
theorem ofSpelling?_eq (room : Nat) (spelling : Spelling) :
    ofSpelling? room spelling = if spelling.depth ≤ room then spelling.value? else none := by
  induction spelling using Spelling.induction generalizing room with
  | null => simp [ofSpelling?, depth, value?]
  | bool value => simp [ofSpelling?, depth, value?]
  | number value => simp [ofSpelling?, depth, value?]
  | text content => simp [ofSpelling?, depth, value?]
  | array items ih =>
      cases room with
      | zero => simp [ofSpelling?, depth]
      | succ room =>
          have limited : items.mapM (ofSpelling? room) =
              if depthItems items ≤ room then items.mapM value? else none := by
            rw [Traversal.mapM_congr fun item mem => ih item mem room, Traversal.mapM_ite]
            simp only [depthItems_le_iff]
          rw [ofSpelling?, limited, depth, value?, valueItems?_eq_mapM]
          simp only [Nat.succ_le_succ_iff]
          split <;> rfl
  | object members ih =>
      cases room with
      | zero => simp [ofSpelling?, depth]
      | succ room =>
          have limited :
              (members.mapM fun member => do return (← member.1, ← ofSpelling? room member.2)) =
              if depthMembers members ≤ room then
                members.mapM fun member => do return (← member.1, ← member.2.value?)
              else none := by
            have each : ∀ member ∈ members,
                (do return (← member.1, ← ofSpelling? room member.2) : Option (String × Json)) =
                if member.2.depth ≤ room then do return (← member.1, ← member.2.value?)
                else none := by
              intro member mem
              rw [ih member mem room]
              split
              · rfl
              · cases member.1 <;> rfl
            rw [Traversal.mapM_congr each, Traversal.mapM_ite]
            simp only [depthMembers_le_iff]
          rw [ofSpelling?, limited, depth, value?, valueMembers?_eq_mapM]
          simp only [Nat.succ_le_succ_iff]
          split <;> rfl

theorem value?_eq_text_iff {spelling : Spelling} {content : String} :
    spelling.value? = some (.text content) ↔ spelling = .text (some content) := by
  cases spelling <;> simp [value?, ofMembers]

theorem value?_eq_number_iff {spelling : Spelling} {number : Number} :
    spelling.value? = some (.number number) ↔ spelling = .number (some number) := by
  cases spelling <;> simp [value?, ofMembers]

end Spelling

/-- A correctly spelled text has the value of its spelling up to 127 open brackets. -/
theorem ofText?_eq {text : String} {spelling : Spelling}
    (spelled : Spelling.ofText? text = some spelling) :
    ofText? text = if bracketDepth text ≤ 127 then spelling.value? else none := by
  rw [ofText?, spelled, Option.bind_some, Spelling.ofSpelling?_eq, bracketDepth_eq_depth spelled]
  rfl

/-- A text means a value if it spells the value and is not too deep. -/
theorem ofText?_eq_some_iff {text : String} {value : Json} :
    ofText? text = some value ↔ ∃ spelling, Spelling.ofText? text = some spelling ∧
      spelling.depth ≤ 127 ∧ spelling.value? = some value := by
  simp only [ofText?, Option.bind_eq_some_iff, Spelling.ofSpelling?_eq,
    Option.ite_none_right_eq_some]
  rfl

/-- A text that means a value spells it. -/
theorem exists_spelling {text : String} (readable : (ofText? text).isSome = true) :
    ∃ spelling value, Spelling.ofText? text = some spelling ∧ spelling.value? = some value ∧
      ofText? text = some value := by
  obtain ⟨value, read⟩ := Option.isSome_iff_exists.mp readable
  obtain ⟨spelling, spelled, _, valued⟩ := ofText?_eq_some_iff.mp read
  exact ⟨spelling, value, spelled, valued, read⟩

def single (key : String) (value : Json) : Json :=
  .object [(key, value)]

namespace Draft

/-! ## The values of drafts -/

theorem value?_text (content : String) :
    (Draft.text content).spelling.value? = some (.text content) :=
  rfl

theorem value?_object {members : List (String × Draft)} {values : List (String × Json)}
    (valued : (members.mapM fun member => member.2.spelling.value?.map (member.1, ·)) =
      some values) :
    (Draft.object members).spelling.value? = some (ofMembers values) := by
  have each : ∀ member ∈ members,
      ((fun member : Option String × Spelling =>
          (do return (← member.1, ← member.2.value?) : Option (String × Json))) ∘
        fun member : String × Draft => (some member.1, member.2.spelling)) member =
      member.2.spelling.value?.map (member.1, ·) := by
    intro member _
    exact (Option.map_eq_bind (x := member.2.spelling.value?)).symm
  rw [spelling, Spelling.value?, Spelling.valueMembers?_eq_mapM, spellingMembers_eq_map,
    List.mapM_map, Traversal.mapM_congr each, valued]
  rfl

theorem value?_tagged {tag : String} {body : Draft} {value : Json}
    (valued : body.spelling.value? = some value) :
    (tagged tag body).spelling.value? = some (single tag value) := by
  have listed : ([(tag, body)].mapM fun member => member.2.spelling.value?.map (member.1, ·)) =
      some [(tag, value)] := by
    rw [List.mapM_cons, valued]
    rfl
  exact value?_object listed

theorem value?_array {α : Type} {draft : α → Draft} {meaning : α → Json} {parts : List α}
    (valued : ∀ part ∈ parts, (draft part).spelling.value? = some (meaning part)) :
    (Draft.array (parts.map draft)).spelling.value? = some (.array (parts.map meaning)) := by
  have each : ∀ part ∈ parts, (Spelling.value? ∘ spelling ∘ draft) part = pure (meaning part) :=
    valued
  rw [spelling, Spelling.value?, Spelling.valueItems?_eq_mapM, spellingItems_eq_map,
    List.map_map, List.mapM_map, Traversal.mapM_eq_pure_map each]
  rfl

theorem value?_texts (contents : List String) :
    (texts contents).spelling.value? = some (.array (contents.map .text)) :=
  value?_array fun content _ => value?_text content

/-! ## The depth of drafts -/

theorem depth_tagged (tag : String) (body : Draft) :
    (tagged tag body).spelling.depth = body.spelling.depth + 1 := by
  simp [tagged, spelling, spellingMembers, Spelling.depth, Spelling.depthMembers]

theorem depth_texts (contents : List String) : (texts contents).spelling.depth = 1 := by
  have flat : Spelling.depthItems (spellingItems (contents.map .text)) ≤ 0 := by
    rw [Spelling.depthItems_le_iff, spellingItems_eq_map, List.map_map]
    intro item mem
    obtain ⟨content, _, rfl⟩ := List.mem_map.mp mem
    exact Nat.le_refl 0
  rw [texts, spelling, Spelling.depth, Nat.le_zero.mp flat]

/-- A verbatim part is not deeper than the text around it. -/
theorem bracketDepth_le_of_mem_verbatims {draft : Draft} (legible : draft.Legible)
    {written : String} (mem : written ∈ draft.verbatims) :
    bracketDepth written ≤ draft.spelling.depth := by
  induction draft using Draft.induction with
  | verbatim own =>
      obtain rfl := List.mem_singleton.mp mem
      obtain ⟨read, spelled⟩ := Option.isSome_iff_exists.mp (legible written mem)
      rw [spelling, spelled, bracketDepth_eq_depth spelled]
      exact Nat.le_refl _
  | text content => cases mem
  | array items ih =>
      rw [verbatims, verbatimsItems_eq_flatMap] at mem
      obtain ⟨item, inItems, inside⟩ := List.mem_flatMap.mp mem
      have below := ih item inItems (legible_array.mp legible item inItems) inside
      have deepest : item.spelling.depth ≤ Spelling.depthItems (spellingItems items) := by
        apply Spelling.depthItems_le_iff.mp (Nat.le_refl _)
        rw [spellingItems_eq_map]
        exact List.mem_map_of_mem inItems
      rw [spelling, Spelling.depth]
      omega
  | object members ih =>
      rw [verbatims, verbatimsMembers_eq_flatMap] at mem
      obtain ⟨member, inMembers, inside⟩ := List.mem_flatMap.mp mem
      have below := ih member inMembers (legible_object.mp legible member inMembers) inside
      have deepest : member.2.spelling.depth ≤ Spelling.depthMembers (spellingMembers members) := by
        apply Spelling.depthMembers_le_iff.mp (Nat.le_refl _) (some member.1, member.2.spelling)
        rw [spellingMembers_eq_map]
        exact List.mem_map.mpr ⟨member, inMembers, rfl⟩
      rw [spelling, Spelling.depth]
      omega

end Draft

end SearchRequest.Json

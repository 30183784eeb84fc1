import SearchRequest.Json.Draft
import SearchRequest.Proofs.Json.Embedding

/-!
# Reading what was rendered

The text of a draft is read as the spelling of that draft, with every verbatim part read
as it would be on its own.  This holds for all contents of texts and keys and for any
number of items and members, at every depth.
-/

namespace SearchRequest.Json

namespace Draft

/-- Induction over drafts, with one hypothesis for each item and each member. -/
theorem induction {motive : Draft → Prop}
    (verbatim : ∀ written, motive (.verbatim written))
    (text : ∀ content, motive (.text content))
    (array : ∀ items, (∀ item ∈ items, motive item) → motive (.array items))
    (object : ∀ members, (∀ member ∈ members, motive member.2) → motive (.object members))
    (draft : Draft) : motive draft := by
  refine @Draft.rec motive (fun items => ∀ item ∈ items, motive item)
    (fun members => ∀ member ∈ members, motive member.2) (fun member => motive member.2)
    verbatim text array object ?_ ?_ ?_ ?_ (fun _ _ ofValue => ofValue) draft
  · intro item mem
    cases mem
  · intro item rest ofItem ofRest
    exact List.forall_mem_cons.mpr ⟨ofItem, ofRest⟩
  · intro member mem
    cases mem
  · intro member rest ofMember ofRest
    exact List.forall_mem_cons.mpr ⟨ofMember, ofRest⟩

mutual

/-- What the text of a draft is read as; verbatim text counts as what it is on its own. -/
def spelling : Draft → Spelling
  | .verbatim written => (Spelling.ofText? written).getD .null
  | .text content => .text (some content)
  | .array items => .array (spellingItems items)
  | .object members => .object (spellingMembers members)

def spellingItems : List Draft → List Spelling
  | [] => []
  | item :: rest => item.spelling :: spellingItems rest

def spellingMembers : List (String × Draft) → List (Option String × Spelling)
  | [] => []
  | (key, value) :: rest => (some key, value.spelling) :: spellingMembers rest

end

theorem spellingItems_eq_map (items : List Draft) : spellingItems items = items.map spelling := by
  induction items with
  | nil => rfl
  | cons item rest ih => simp [spellingItems, ih]

theorem spellingMembers_eq_map (members : List (String × Draft)) :
    spellingMembers members = members.map fun member => (some member.1, member.2.spelling) := by
  induction members with
  | nil => rfl
  | cons member rest ih => simp [spellingMembers, ih]

theorem spelling_tagged (tag : String) (body : Draft) :
    (tagged tag body).spelling = .object [(some tag, body.spelling)] :=
  rfl

mutual

def verbatims : Draft → List String
  | .verbatim written => [written]
  | .text _ => []
  | .array items => verbatimsItems items
  | .object members => verbatimsMembers members

def verbatimsItems : List Draft → List String
  | [] => []
  | item :: rest => item.verbatims ++ verbatimsItems rest

def verbatimsMembers : List (String × Draft) → List String
  | [] => []
  | (_, value) :: rest => value.verbatims ++ verbatimsMembers rest

end

theorem verbatimsItems_eq_flatMap (items : List Draft) :
    verbatimsItems items = items.flatMap verbatims := by
  induction items with
  | nil => rfl
  | cons item rest ih => simp [verbatimsItems, ih]

theorem verbatimsMembers_eq_flatMap (members : List (String × Draft)) :
    verbatimsMembers members = members.flatMap fun member => member.2.verbatims := by
  induction members with
  | nil => rfl
  | cons member rest ih => simp [verbatimsMembers, ih]

theorem verbatims_tagged (tag : String) (body : Draft) :
    (tagged tag body).verbatims = body.verbatims :=
  List.append_nil _

/-- Every verbatim part of the draft is a JSON text by itself. -/
def Legible (draft : Draft) : Prop :=
  ∀ written ∈ draft.verbatims, (Spelling.ofText? written).isSome = true

theorem legible_array {items : List Draft} :
    Legible (.array items) ↔ ∀ item ∈ items, item.Legible := by
  simp only [Legible, verbatims, verbatimsItems_eq_flatMap, List.mem_flatMap]
  constructor
  · intro legible item mem written inside
    exact legible written ⟨item, mem, inside⟩
  · rintro legible written ⟨item, mem, inside⟩
    exact legible item mem written inside

theorem legible_object {members : List (String × Draft)} :
    Legible (.object members) ↔ ∀ member ∈ members, member.2.Legible := by
  simp only [Legible, verbatims, verbatimsMembers_eq_flatMap, List.mem_flatMap]
  constructor
  · intro legible member mem written inside
    exact legible written ⟨member, mem, inside⟩
  · rintro legible written ⟨member, mem, inside⟩
    exact legible member mem written inside

/-! ## Items and members -/

/-- A draft whose text is read as its spelling, wherever a value may stand. -/
def Reads (draft : Draft) : Prop :=
  Spells draft.render.toList draft.spelling

open Reader

/-- The items of an array are read up to its closing bracket. -/
theorem run?_renderItems {item : Draft} {rest : List Draft} (reads : item.Reads)
    (allRead : ∀ item ∈ rest, item.Reads) (before : List Spelling) (outer : List Frame) :
    (Reader.value (.item before :: outer)).run?
        ((renderItems "" (item :: rest)).toList ++ [']']) =
      some (deliver (.array (before.reverse ++ (item :: rest).map spelling)) outer) := by
  induction rest generalizing item before with
  | nil =>
      have close := reads.run?_mark (.item before :: outer) (by decide : ']' ∈ marks)
      rw [step?_item_close] at close
      simpa [renderItems] using close
  | cons next rest ih =>
      have comma := reads.run?_mark (.item before :: outer) (by decide : ',' ∈ marks)
      have further := ih (allRead next (by simp)) (fun item mem => allRead item (by simp [mem]))
        (item.spelling :: before)
      have split : (renderItems "" (item :: next :: rest)).toList ++ [']'] =
          (item.render.toList ++ [',']) ++ ((renderItems "" (next :: rest)).toList ++ [']']) := by
        simp [renderItems]
      rw [split, run?_append, comma, step?_item_comma, Option.bind_some, further]
      simp

/-- A key is read up to the colon behind it. -/
theorem run?_key (key : String) (before : List (Option String × Spelling))
    (outer : List Frame) :
    (Reader.nextKey before outer).run? ((quote key).toList ++ [':']) =
      some (.value (.member before (some key) :: outer)) := by
  have begun : (Reader.nextKey before outer).step? '"' =
      some (.quoted .start (.key before) outer) := rfl
  rw [toList_quote, run?_append, run?_cons, begun, Option.bind_some, run?_quoted]
  rfl

/-- The members of an object are read up to its closing brace. -/
theorem run?_renderMembers {key : String} {value : Draft} {rest : List (String × Draft)}
    (reads : value.Reads) (allRead : ∀ member ∈ rest, member.2.Reads)
    (before : List (Option String × Spelling)) (outer : List Frame) :
    (Reader.nextKey before outer).run?
        ((renderMembers "" ((key, value) :: rest)).toList ++ ['\x7d']) =
      some (deliver (.object (before.reverse ++
        ((key, value) :: rest).map fun member => (some member.1, member.2.spelling))) outer) := by
  induction rest generalizing key value before with
  | nil =>
      have close := reads.run?_mark (.member before (some key) :: outer)
        (by decide : '\x7d' ∈ marks)
      have split : (renderMembers "" [(key, value)]).toList ++ ['\x7d'] =
          ((quote key).toList ++ [':']) ++ (value.render.toList ++ ['\x7d']) := by
        simp [renderMembers]
      rw [split, run?_append, run?_key, Option.bind_some, close, step?_member_close]
      simp
  | cons next rest ih =>
      obtain ⟨nextKey, nextValue⟩ := next
      have comma := reads.run?_mark (.member before (some key) :: outer)
        (by decide : ',' ∈ marks)
      have readNext : nextValue.Reads := allRead (nextKey, nextValue) (by simp)
      have further := @ih nextKey nextValue readNext
        (fun member mem => allRead member (by simp [mem])) ((some key, value.spelling) :: before)
      have split : (renderMembers "" ((key, value) :: (nextKey, nextValue) :: rest)).toList ++
            ['\x7d'] =
          ((quote key).toList ++ [':']) ++ ((value.render.toList ++ [',']) ++
            ((renderMembers "" ((nextKey, nextValue) :: rest)).toList ++ ['\x7d'])) := by
        simp [renderMembers]
      rw [split, run?_append, run?_key, Option.bind_some, run?_append, comma, step?_member_comma,
        Option.bind_some, further]
      simp

/-- The text of an array is read up to its end. -/
theorem run?_array {items : List Draft} (allRead : ∀ item ∈ items, item.Reads)
    (outer : List Frame) :
    (Reader.value outer).run? (render (.array items)).toList =
      some (deliver (spelling (.array items)) outer) := by
  rw [spelling, spellingItems_eq_map]
  cases items with
  | nil => rfl
  | cons item rest =>
      have readItem := allRead item (by simp)
      have readRest := fun next mem => allRead next (List.mem_cons_of_mem item mem)
      have opened : (render (.array (item :: rest))).toList =
          '[' :: (item.render.toList ++ ((renderItems "," rest).toList ++ [']'])) := by
        simp [render, renderItems]
      have same : item.render.toList ++ ((renderItems "," rest).toList ++ [']']) =
          (renderItems "" (item :: rest)).toList ++ [']'] := by
        simp [renderItems]
      have bracket : (Reader.value outer).step? '[' = some (.firstItem outer) := rfl
      rw [opened, run?_cons, bracket, Option.bind_some, readItem.run?_firstItem, same,
        run?_renderItems readItem readRest]
      rfl

/-- The text of an object is read up to its end. -/
theorem run?_object {members : List (String × Draft)}
    (allRead : ∀ member ∈ members, member.2.Reads) (outer : List Frame) :
    (Reader.value outer).run? (render (.object members)).toList =
      some (deliver (spelling (.object members)) outer) := by
  rw [spelling, spellingMembers_eq_map]
  cases members with
  | nil => rfl
  | cons member rest =>
      obtain ⟨key, value⟩ := member
      have readValue := allRead (key, value) (by simp)
      have readRest := fun next mem => allRead next (List.mem_cons_of_mem (key, value) mem)
      have quoted : (renderMembers "" ((key, value) :: rest)).toList ++ ['\x7d'] =
          '"' :: (((renderMembers "" ((key, value) :: rest)).toList ++ ['\x7d']).tail) := by
        simp [renderMembers]
      have opened : (render (.object ((key, value) :: rest))).toList =
          '\x7b' :: ((renderMembers "" ((key, value) :: rest)).toList ++ ['\x7d']) := by
        simp [render]
      have brace : (Reader.value outer).step? '\x7b' = some (.firstKey outer) := rfl
      rw [opened, run?_cons, brace, Option.bind_some, quoted, run?_firstKey, ← quoted,
        run?_renderMembers readValue readRest]
      rfl

/-- The text of a legible draft is read as its spelling, wherever a value may stand. -/
theorem Legible.reads {draft : Draft} (legible : draft.Legible) : draft.Reads := by
  induction draft using Draft.induction with
  | verbatim written =>
      obtain ⟨read, spelled⟩ := Option.isSome_iff_exists.mp (legible written (by simp [verbatims]))
      rw [Reads, render, spelling, spelled]
      exact spells_iff.mpr spelled
  | text content => exact Spells.quote content
  | array items ih =>
      intro outer
      refine ⟨_, run?_array ?_ outer, .delivered _ outer⟩
      intro item mem
      exact ih item mem (legible_array.mp legible item mem)
  | object members ih =>
      intro outer
      refine ⟨_, run?_object ?_ outer, .delivered _ outer⟩
      intro member mem
      exact ih member mem (legible_object.mp legible member mem)

/-- The text of a legible draft has the spelling of the draft. -/
theorem Legible.ofText?_render {draft : Draft} (legible : draft.Legible) :
    Spelling.ofText? draft.render = some draft.spelling :=
  spells_iff.mp legible.reads

end Draft

end SearchRequest.Json

import SearchRequest.Proofs.Json.Meaning
import SearchRequest.Proofs.Json.Unambiguous
import SearchRequest.Stored.Record

/-!
# Reading stored forms back

A stored form is kept if it is read as the value that it was made of wherever there is room for the
brackets in it, and is not read where there is none.  A record gives back its fields, those that
were left out included.
-/

namespace SearchRequest.Stored

open Json (Draft Spelling bracketDepth)

variable {α : Type}

/-- The value is read from the form exactly where there is room for the brackets of the form. -/
def Kept (read : Nat → Spelling → Option α) (form : Draft) (value : α) : Prop :=
  ∀ room, read room form.spelling = if form.spelling.depth ≤ room then some value else none

theorem bracketDepth_render {form : Draft} (free : form.VerbatimFree) :
    bracketDepth form.render = form.spelling.depth :=
  Json.bracketDepth_eq_depth free.legible.ofText?_render

/-- The text of a kept form is read as the value, unless too many brackets are open in it. -/
theorem Kept.bind_ofText? {read : Nat → Spelling → Option α} {form : Draft} {value : α}
    (kept : Kept read form value) (free : form.VerbatimFree) :
    (Spelling.ofText? form.render).bind (read Json.maxOpen) =
      if bracketDepth form.render ≤ Json.maxOpen then some value else none := by
  rw [bracketDepth_render free, free.legible.ofText?_render]
  exact kept Json.maxOpen

/-- A form without brackets inside its own ones is kept if there need only be room for those. -/
theorem Kept.ofFlat {read : Nat → Spelling → Option α} {form : Draft} {value : α}
    (flat : form.spelling.depth = 1) (closed : read 0 form.spelling = none)
    (opened : ∀ room, read (room + 1) form.spelling = some value) : Kept read form value := by
  intro room
  rw [flat]
  cases room with
  | zero => exact closed
  | succ room => rw [opened, if_pos (Nat.le_add_left 1 room)]

/-- The parts of an array are read together exactly where there is room for each of them. -/
theorem mapM_kept {read : Nat → Spelling → Option α} {form : α → Draft} {parts : List α}
    (kept : ∀ part ∈ parts, Kept read (form part) part) (room : Nat) :
    (Draft.spellingItems (parts.map form)).mapM (read room) =
      if Spelling.depthItems (Draft.spellingItems (parts.map form)) ≤ room then some parts
      else none := by
  have fits : Spelling.depthItems (Draft.spellingItems (parts.map form)) ≤ room ↔
      ∀ part ∈ parts, (form part).spelling.depth ≤ room := by
    rw [Spelling.depthItems_le_iff, Draft.spellingItems_eq_map, List.map_map, List.forall_mem_map]
    rfl
  have each : ∀ part ∈ parts, (read room ∘ Draft.spelling ∘ form) part =
      if (form part).spelling.depth ≤ room then some part else none :=
    fun part mem => kept part mem room
  have all : parts.mapM some = some (parts.map id) :=
    Traversal.mapM_eq_pure_map fun _ _ => rfl
  rw [if_congr fits rfl rfl, Draft.spellingItems_eq_map, List.map_map, List.mapM_map,
    Traversal.mapM_congr each, Traversal.mapM_ite, all, List.map_id]

/-- A list is kept if its parts are and it is read as an array of them. -/
theorem Kept.array {read : Nat → Spelling → Option α} {readAll : Nat → Spelling → Option (List α)}
    {form : α → Draft} {parts : List α} (kept : ∀ part ∈ parts, Kept read (form part) part)
    (closed : ∀ items, readAll 0 (.array items) = none)
    (opened : ∀ room items, readAll (room + 1) (.array items) = items.mapM (read room)) :
    Kept readAll (.array (parts.map form)) parts := by
  intro room
  rw [Draft.spelling, Spelling.depth]
  cases room with
  | zero => exact closed _
  | succ room =>
      rw [opened, mapM_kept kept room]
      exact if_congr Nat.succ_le_succ_iff.symm rfl rfl

theorem kept_texts (contents : List String) : Kept texts? (.texts contents) contents := by
  have each : ∀ content ∈ contents, Kept (fun _ => text?) (.text content) content :=
    fun _ _ _ => rfl
  exact .array each (fun _ => rfl) fun _ _ => rfl

/-! ## Records -/

section Records

variable {fields : List (String × Option Draft)}

def spelledFields (fields : List (String × Option Draft)) : List (Option String × Spelling) :=
  fields.filterMap fun field => field.2.map fun form => (some field.1, form.spelling)

theorem spelling_record (fields : List (String × Option Draft)) :
    (record fields).spelling = .object (spelledFields fields) := by
  rw [record, Draft.spelling, Draft.spellingMembers_eq_map, List.map_filterMap, spelledFields]
  simp only [Option.map_map]
  rfl

theorem exists_field_of_mem {member : Option String × Spelling}
    (mem : member ∈ spelledFields fields) : ∃ field ∈ fields, member.1 = some field.1 := by
  obtain ⟨field, inside, spelled⟩ := List.mem_filterMap.mp mem
  obtain ⟨form, -, rfl⟩ := Option.map_eq_some_iff.mp spelled
  exact ⟨field, inside, rfl⟩

theorem membersNamed_of_notMem {name : String} (absent : name ∉ fields.map Prod.fst) :
    membersNamed name (spelledFields fields) = [] := by
  rw [membersNamed, List.map_eq_nil_iff, List.filter_eq_nil_iff]
  intro member mem named
  obtain ⟨field, inside, key⟩ := exists_field_of_mem mem
  rw [key, decide_eq_true_eq, Option.some_inj] at named
  exact absent (named ▸ List.mem_map_of_mem inside)

theorem membersNamed_cons (name key : String) (form : Option Draft)
    (rest : List (String × Option Draft)) :
    membersNamed name (spelledFields ((key, form) :: rest)) =
      (if key = name then (form.map Draft.spelling).toList else []) ++
        membersNamed name (spelledFields rest) := by
  cases form with
  | none => simp [membersNamed, spelledFields]
  | some form => by_cases same : key = name <;> simp [membersNamed, spelledFields, same]

/-- The only member with the name of a field is that field, if it has a value. -/
theorem membersNamed_of_mem (distinct : (fields.map Prod.fst).Nodup) :
    ∀ field ∈ fields,
      membersNamed field.1 (spelledFields fields) = (field.2.map Draft.spelling).toList := by
  induction fields with
  | nil => exact fun _ mem => absurd mem List.not_mem_nil
  | cons first rest ih =>
      obtain ⟨alone, distinct⟩ := List.nodup_cons.mp distinct
      intro field mem
      rw [membersNamed_cons]
      rcases List.mem_cons.mp mem with rfl | mem
      · rw [if_pos rfl, membersNamed_of_notMem alone, List.append_nil]
      · have other : first.1 ≠ field.1 := fun same =>
          alone (same ▸ List.mem_map_of_mem mem)
        rw [if_neg other, List.nil_append, ih distinct field mem]

/-- A record gives back its fields, and nothing for those that have no value. -/
theorem fields?_record {names : List String} (named : fields.map Prod.fst = names)
    (distinct : names.Nodup) : fields? names (record fields).spelling =
      some (fields.map fun field => field.2.map Draft.spelling) := by
  subst named
  have each := membersNamed_of_mem distinct
  have keyed : (spelledFields fields).all (·.1.isSome) = true := by
    rw [List.all_eq_true]
    intro member mem
    obtain ⟨field, -, key⟩ := exists_field_of_mem mem
    rw [key]
    rfl
  have single : (fields.map Prod.fst).all
      (fun name => (membersNamed name (spelledFields fields)).length ≤ 1) = true := by
    rw [List.all_eq_true, List.forall_mem_map]
    intro field mem
    rw [each field mem]
    cases field.2 <;> rfl
  rw [spelling_record, fields?, keyed, single, List.map_map]
  refine congrArg some (List.map_congr_left fun field mem => ?_)
  rw [Function.comp_apply, each field mem]
  cases field.2 <;> rfl

/-- An object gives back its members. -/
theorem fields?_object {members : List (String × Draft)} {names : List String}
    (named : members.map Prod.fst = names) (distinct : names.Nodup) :
    fields? names (Draft.object members).spelling =
      some (members.map fun member => some member.2.spelling) := by
  have full : Draft.object members =
      record (members.map fun member => (member.1, some member.2)) := by
    simp [record, List.filterMap_map]
  rw [full, fields?_record ?named distinct, List.map_map]
  case named => rwa [List.map_map]
  rfl

end Records

/-! ## Fields -/

theorem textField?_text (content : String) :
    textField? (some (Draft.text content).spelling) = some content :=
  rfl

theorem optionalTextField?_map (content : Option String) :
    optionalTextField? ((content.map Draft.text).map Draft.spelling) = some content := by
  cases content <;> rfl

theorem name?_text (room : Nat) (content : String) :
    name? room (Draft.text content).spelling = some content := by
  cases room <;> rfl

end SearchRequest.Stored

import SearchRequest.Proofs.Json.Rendering
import SearchRequest.Proofs.Traversal

/-!
# JSON texts that cannot be confused

The text of a draft without verbatim parts shows where it ends, so it can be cut off any
longer text, and it gives back the whole draft.
-/

namespace SearchRequest.Json

/-- Behind a whole text only blanks may come. -/
theorem Reader.run?_done {read : Spelling} {characters : List Char} {last : Reader}
    (ran : (Reader.done read).run? characters = some last) :
    ∀ c ∈ characters, isBlank c = true := by
  induction characters with
  | nil =>
      intro c mem
      cases mem
  | cons c rest ih =>
      rw [run?_cons] at ran
      obtain ⟨next, stepped, further⟩ := Option.bind_eq_some_iff.mp ran
      change (if isBlank c then some (Reader.done read) else none) = some next at stepped
      split at stepped
      · next blank =>
          cases stepped
          exact List.forall_mem_cons.mpr ⟨blank, ih further⟩
      · cases stepped

namespace Draft

/-- No part of the draft is written as it stands. -/
def VerbatimFree (draft : Draft) : Prop :=
  draft.verbatims = []

theorem verbatimFree_array {items : List Draft} :
    VerbatimFree (.array items) ↔ ∀ item ∈ items, item.VerbatimFree := by
  simp [VerbatimFree, verbatims, verbatimsItems_eq_flatMap]

theorem verbatimFree_object {members : List (String × Draft)} :
    VerbatimFree (.object members) ↔ ∀ member ∈ members, member.2.VerbatimFree := by
  simp [VerbatimFree, verbatims, verbatimsMembers_eq_flatMap]

theorem verbatimFree_tagged {tag : String} {body : Draft} :
    (tagged tag body).VerbatimFree ↔ body.VerbatimFree := by
  rw [VerbatimFree, VerbatimFree, verbatims_tagged]

theorem verbatimFree_texts (contents : List String) : (texts contents).VerbatimFree :=
  verbatimFree_array.mpr (List.forall_mem_map.mpr fun _ _ => rfl)

theorem tagged_inj {tag tag' : String} {body body' : Draft} :
    tagged tag body = tagged tag' body' ↔ tag = tag' ∧ body = body' := by
  simp [tagged]

theorem texts_inj {contents contents' : List String} :
    texts contents = texts contents' ↔ contents = contents' := by
  rw [texts, texts, Draft.array.injEq]
  exact List.map_inj_right fun _ _ => Draft.text.inj

namespace VerbatimFree

theorem legible {draft : Draft} (free : draft.VerbatimFree) : draft.Legible := by
  intro written mem
  rw [free] at mem
  cases mem

/-- Without verbatim parts, the text of a draft is read up to its end. -/
theorem run?_render {draft : Draft} (free : draft.VerbatimFree) (outer : List Frame) :
    (Reader.value outer).run? draft.render.toList =
      some (Reader.deliver draft.spelling outer) := by
  cases draft with
  | verbatim written => cases free
  | text content =>
      rw [render, toList_quote, Reader.run?_cons]
      exact Reader.run?_quoted .value outer content
  | array items =>
      refine run?_array ?_ outer
      intro item mem
      exact (verbatimFree_array.mp free item mem).legible.reads
  | object members =>
      refine run?_object ?_ outer
      intro member mem
      exact (verbatimFree_object.mp free member mem).legible.reads

/-- The last character of a text without verbatim parts is no blank. -/
theorem render_ends {draft : Draft} (free : draft.VerbatimFree) :
    ∃ front last, draft.render.toList = front ++ [last] ∧ Reader.isBlank last = false := by
  cases draft with
  | verbatim written => cases free
  | text content =>
      exact ⟨'"' :: content.toList.flatMap charSpelling, '"', toList_quote content, rfl⟩
  | array items =>
      exact ⟨'[' :: (renderItems "" items).toList, ']', by simp [render], rfl⟩
  | object members =>
      exact ⟨'\x7b' :: (renderMembers "" members).toList, '\x7d', by simp [render], rfl⟩

/-- No text without verbatim parts goes on where another one ends. -/
theorem eq_nil_of_render_append {draft draft' : Draft} (free : draft.VerbatimFree)
    (free' : draft'.VerbatimFree) {further : List Char}
    (same : draft.render.toList ++ further = draft'.render.toList) : further = [] := by
  -- The reader is done behind the shorter text, so all that is left of the longer one is blank.
  have ran := free'.run?_render []
  rw [← same, Reader.run?_append, free.run?_render, Option.bind_some] at ran
  have blank := Reader.run?_done ran
  obtain ⟨front, last, ends, notBlank⟩ := free'.render_ends
  rcases List.eq_nil_or_concat further with empty | ⟨before, c, rfl⟩
  · exact empty
  · rw [ends, List.concat_eq_append, ← List.append_assoc] at same
    obtain ⟨-, lastSame⟩ := List.append_inj' same rfl
    cases lastSame
    have isBlank := blank last (by simp)
    rw [notBlank] at isBlank
    cases isBlank

/-- A draft without verbatim parts is known from what its text is read as. -/
theorem eq_of_spelling_eq {draft draft' : Draft} (free : draft.VerbatimFree)
    (free' : draft'.VerbatimFree) (same : draft.spelling = draft'.spelling) :
    draft = draft' := by
  induction draft using Draft.induction generalizing draft' with
  | verbatim written => cases free
  | text content =>
      cases draft' with
      | verbatim written => cases free'
      | text content' =>
          cases same
          rfl
      | array items' => cases same
      | object members' => cases same
  | array items ih =>
      cases draft' with
      | verbatim written => cases free'
      | text content' => cases same
      | array items' =>
          rw [verbatimFree_array] at free free'
          rw [spelling, spelling, Spelling.array.injEq, spellingItems_eq_map,
            spellingItems_eq_map] at same
          have sameItems := Traversal.map_eq_map_of_imp id
            (fun item mem item' mem' => ih item mem (free item mem) (free' item' mem')) same
          rw [List.map_id, List.map_id] at sameItems
          rw [sameItems]
      | object members' => cases same
  | object members ih =>
      cases draft' with
      | verbatim written => cases free'
      | text content' => cases same
      | array items' => cases same
      | object members' =>
          rw [verbatimFree_object] at free free'
          rw [spelling, spelling, Spelling.object.injEq, spellingMembers_eq_map,
            spellingMembers_eq_map] at same
          have sameMembers := Traversal.map_eq_map_of_imp id
            (fun member mem member' mem' sameMember => by
              obtain ⟨sameKey, sameValue⟩ := Prod.mk.inj sameMember
              exact Prod.ext (Option.some.inj sameKey)
                (ih member mem (free member mem) (free' member' mem') sameValue)) same
          rw [List.map_id, List.map_id] at sameMembers
          rw [sameMembers]

/-- A text without verbatim parts shows where it ends and of which draft it is. -/
theorem render_append_inj {draft draft' : Draft} (free : draft.VerbatimFree)
    (free' : draft'.VerbatimFree) {rest rest' : List Char}
    (same : draft.render.toList ++ rest = draft'.render.toList ++ rest') :
    draft = draft' ∧ rest = rest' := by
  have sameText : draft.render.toList = draft'.render.toList := by
    rcases List.append_eq_append_iff.mp same with ⟨further, longer, -⟩ | ⟨further, longer, -⟩
    · rw [longer, eq_nil_of_render_append free free' longer.symm, List.append_nil]
    · rw [longer, eq_nil_of_render_append free' free longer.symm, List.append_nil]
  constructor
  · have ran := free.run?_render []
    rw [sameText, free'.run?_render] at ran
    exact eq_of_spelling_eq free free' (Reader.done.inj (Option.some.inj ran)).symm
  · rw [sameText] at same
    exact List.append_cancel_left same

end VerbatimFree

end Draft

end SearchRequest.Json

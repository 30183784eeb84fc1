import Mathlib.Data.List.Forall2

/-!
# Reading a list part by part

A list is read by reading each of its parts in order, and the first failure is the failure
of the whole.  What the reading of the parts has in common carries over to the list.
-/

namespace SearchRequest.Traversal

variable {α β : Type}

section Lawful

variable {m : Type → Type} [Monad m] [LawfulMonad m]

/-- Readings that agree on every part agree on the list. -/
theorem mapM_congr {read read' : α → m β} {parts : List α}
    (agree : ∀ part ∈ parts, read part = read' part) : parts.mapM read = parts.mapM read' := by
  induction parts with
  | nil => rfl
  | cons part rest ih =>
      rw [List.forall_mem_cons] at agree
      rw [List.mapM_cons, List.mapM_cons, agree.1, ih agree.2]

/-- Where every part is read, the list is read. -/
theorem mapM_eq_pure_map {read : α → m β} {meaning : α → β} {parts : List α}
    (agree : ∀ part ∈ parts, read part = pure (meaning part)) :
    parts.mapM read = pure (parts.map meaning) := by
  rw [mapM_congr agree, List.mapM_pure]

end Lawful

/-- A list is read as another one exactly when each part is read as its counterpart. -/
theorem mapM_eq_some_iff {read : α → Option β} {parts : List α} {results : List β} :
    parts.mapM read = some results ↔
      List.Forall₂ (fun part result => read part = some result) parts results := by
  induction parts generalizing results with
  | nil => cases results <;> simp
  | cons part rest ih =>
      rw [List.mapM_cons]
      simp only [Option.bind_eq_bind, Option.bind_eq_some_iff, Option.pure_def,
        Option.some.injEq, List.forall₂_cons_left_iff, ih]
      constructor
      · rintro ⟨result, ofPart, others, ofRest, rfl⟩
        exact ⟨result, others, ofPart, ofRest, rfl⟩
      · rintro ⟨result, others, ofPart, ofRest, rfl⟩
        exact ⟨result, ofPart, others, ofRest, rfl⟩

theorem bind_eq_ok_iff {ε : Type} {outcome : Except ε α} {further : α → Except ε β} {result : β} :
    outcome.bind further = .ok result ↔
      ∃ value, outcome = .ok value ∧ further value = .ok result := by
  cases outcome <;> simp [Except.bind]

theorem mapM_eq_ok_iff {ε : Type} {read : α → Except ε β} {parts : List α} {results : List β} :
    parts.mapM read = .ok results ↔
      List.Forall₂ (fun part result => read part = .ok result) parts results := by
  induction parts generalizing results with
  | nil => cases results <;> simp [pure, Except.pure]
  | cons part rest ih =>
      rw [List.mapM_cons, List.forall₂_cons_left_iff]
      change (read part).bind (fun result => (rest.mapM read).bind fun others =>
        .ok (result :: others)) = .ok results ↔ _
      simp only [bind_eq_ok_iff, ih, Except.ok.injEq]
      constructor
      · rintro ⟨result, ofPart, others, ofRest, rfl⟩
        exact ⟨result, others, ofPart, ofRest, rfl⟩
      · rintro ⟨result, others, ofPart, ofRest, rfl⟩
        exact ⟨result, ofPart, others, ofRest, rfl⟩

/-- Where every part can be read, the list can be read. -/
theorem exists_mapM_eq_ok {ε : Type} {read : α → Except ε β} {parts : List α}
    (each : ∀ part ∈ parts, ∃ result, read part = .ok result) :
    ∃ results, parts.mapM read = .ok results := by
  simp only [mapM_eq_ok_iff]
  induction parts with
  | nil => exact ⟨[], .nil⟩
  | cons part rest ih =>
      rw [List.forall_mem_cons] at each
      obtain ⟨result, ofPart⟩ := each.1
      obtain ⟨results, ofRest⟩ := ih each.2
      exact ⟨result :: results, .cons ofPart ofRest⟩

/-- Results that are changed one by one are changed all at once. -/
theorem mapM_map_result {γ ε : Type} {read : α → Except ε β} {change : β → γ} (parts : List α) :
    parts.mapM (fun part => (read part).map change) = (parts.mapM read).map (List.map change) := by
  induction parts with
  | nil => rfl
  | cons part rest ih =>
      rw [List.mapM_cons, List.mapM_cons, ih]
      cases read part with
      | error failure => rfl
      | ok result => cases rest.mapM read <;> rfl

/-- What is read before every part in the same way needs to be read only once. -/
theorem mapM_bind_of_ne_nil {γ ε : Type} {first : Except ε γ} {read : γ → α → Except ε β}
    {parts : List α} (somePart : parts ≠ []) :
    parts.mapM (fun part => first.bind fun known => read known part) =
      first.bind fun known => parts.mapM (read known) := by
  cases first with
  | ok known => rfl
  | error failure =>
      cases parts with
      | nil => exact absurd rfl somePart
      | cons part rest =>
          rw [List.mapM_cons]
          rfl

/-- What follows for every part and its result follows for the lists. -/
theorem forall₂_imp_of_mem {related related' : α → β → Prop} {parts : List α}
    {results : List β} (all : List.Forall₂ related parts results)
    (each : ∀ part ∈ parts, ∀ result, related part result → related' part result) :
    List.Forall₂ related' parts results := by
  induction all with
  | nil => exact .nil
  | cons ofPart _ ih =>
      rw [List.forall_mem_cons] at each
      exact .cons (each.1 _ ofPart) (ih each.2)

/-- What holds of the result of every part holds of every result. -/
theorem forall_mem_of_forall₂ {related : α → β → Prop} {parts : List α} {results : List β}
    {holds : β → Prop} (all : List.Forall₂ related parts results)
    (each : ∀ part ∈ parts, ∀ result, related part result → holds result) :
    ∀ result ∈ results, holds result := by
  induction all with
  | nil =>
      intro result mem
      cases mem
  | cons ofPart _ ih =>
      rw [List.forall_mem_cons] at each ⊢
      exact ⟨each.1 _ ofPart, ih each.2⟩

/-- Where one part cannot be read, the list cannot be read. -/
theorem mapM_eq_none {read : α → Option β} {parts : List α} {part : α} (mem : part ∈ parts)
    (unread : read part = none) : parts.mapM read = none := by
  induction parts with
  | nil => cases mem
  | cons first rest ih =>
      rw [List.mapM_cons]
      rcases List.mem_cons.mp mem with rfl | inRest
      · rw [unread]
        rfl
      · rw [ih inRest]
        cases read first <;> rfl

/-- A condition on every part of a list is a condition on the list. -/
theorem mapM_ite {allowed : α → Prop} [DecidablePred allowed] (read : α → Option β)
    (parts : List α) :
    parts.mapM (fun part => if allowed part then read part else none) =
      if ∀ part ∈ parts, allowed part then parts.mapM read else none := by
  split
  · next all =>
      apply mapM_congr
      intro part mem
      exact if_pos (all part mem)
  · next notAll =>
      simp only [Classical.not_forall] at notAll
      obtain ⟨part, mem, refused⟩ := notAll
      exact mapM_eq_none mem (if_neg refused)

/-- Two lists look the same exactly when each part looks like its counterpart. -/
theorem map_eq_map_iff {γ : Type} {view : α → γ} {view' : β → γ} {parts : List α}
    {parts' : List β} :
    parts.map view = parts'.map view' ↔
      List.Forall₂ (fun part part' => view part = view' part') parts parts' := by
  rw [← List.forall₂_map_right_iff, ← List.forall₂_map_left_iff, List.forall₂_eq_eq_eq]

/-- What tells two parts apart tells two lists of such parts apart. -/
theorem map_eq_map_of_imp {γ : Type} {read : α → β} (meaning : α → γ) {parts parts' : List α}
    (decides : ∀ part ∈ parts, ∀ part' ∈ parts', read part = read part' →
      meaning part = meaning part')
    (same : parts.map read = parts'.map read) : parts.map meaning = parts'.map meaning := by
  induction parts generalizing parts' with
  | nil =>
      rw [List.map_eq_nil_iff.mp same.symm]
  | cons part rest ih =>
      obtain ⟨part', rest', rfl, samePart, sameRest⟩ := List.map_eq_cons_iff.mp same.symm
      rw [List.map_cons, List.map_cons, decides part (by simp) part' (by simp) samePart.symm]
      refine congrArg _ (ih ?_ sameRest.symm)
      intro other mem other' mem'
      exact decides other (List.mem_cons_of_mem part mem) other' (List.mem_cons_of_mem part' mem')

/-- A place in two lists behind one another lies in the second one or in the first one. -/
theorem append_eq_append_cons {first second before after : List α} {found : α}
    (same : first ++ second = before ++ found :: after) :
    (∃ skipped, before = first ++ skipped ∧ second = skipped ++ found :: after) ∨
      ∃ back, first = before ++ found :: back ∧ after = back ++ second := by
  rcases List.append_eq_append_iff.mp same with ⟨skipped, ofFirst, rest⟩ | ⟨begun, ofFirst, rest⟩
  · exact .inl ⟨skipped, ofFirst, rest⟩
  · cases begun with
    | nil => exact .inl ⟨[], by simpa using ofFirst.symm, rest.symm⟩
    | cons head back =>
        obtain ⟨rfl, behind⟩ := List.cons.inj rest
        exact .inr ⟨back, ofFirst, behind⟩

/-- In a list that was put together, every place lies inside of one part. -/
theorem exists_part_of_flatMap_eq {form : α → List β} {parts : List α} {before after : List β}
    {found : β} (same : parts.flatMap form = before ++ found :: after) :
    ∃ earlier part later front back, parts = earlier ++ part :: later ∧
      form part = front ++ found :: back ∧ before = earlier.flatMap form ++ front ∧
      after = back ++ later.flatMap form := by
  induction parts generalizing before with
  | nil => exact absurd same.symm (List.append_ne_nil_of_right_ne_nil _ (List.cons_ne_nil _ _))
  | cons part rest ih =>
      rw [List.flatMap_cons] at same
      rcases append_eq_append_cons same with ⟨skipped, rfl, inRest⟩ | ⟨back, inPart, rfl⟩
      · obtain ⟨earlier, other, later, front, back, rfl, inOther, rfl, rfl⟩ := ih inRest
        refine ⟨part :: earlier, other, later, front, back, rfl, inOther, ?_, rfl⟩
        rw [List.flatMap_cons, List.append_assoc]
      · exact ⟨[], part, rest, before, back, rfl, inPart, rfl, rfl⟩

/-- In a text that was written character by character, every place was written for one of them. -/
theorem exists_char_of_written_eq {spelling : Char → List Char} {text before after : String}
    {found : Char} (written : String.ofList (text.toList.flatMap spelling) =
      before ++ String.singleton found ++ after) :
    ∃ first c second front back, text = first ++ String.singleton c ++ second ∧
      spelling c = front ++ found :: back ∧
      before = String.ofList (first.toList.flatMap spelling) ++ String.ofList front ∧
      after = String.ofList back ++ String.ofList (second.toList.flatMap spelling) := by
  have places : text.toList.flatMap spelling = before.toList ++ found :: after.toList := by
    have characters := congrArg String.toList written
    simpa using characters
  obtain ⟨earlier, c, later, front, back, parts, inPart, ofBefore, ofAfter⟩ :=
    exists_part_of_flatMap_eq places
  refine ⟨String.ofList earlier, c, String.ofList later, front, back, ?_, inPart, ?_, ?_⟩
  · rw [← String.toList_inj, parts]
    simp
  · rw [← String.toList_inj, ofBefore]
    simp
  · rw [← String.toList_inj, ofAfter]
    simp

end SearchRequest.Traversal

import Mathlib.Data.Nat.Basic
import Mathlib.Order.Basic
import SearchRequest.Proofs.Json.Embedding

/-!
# Open brackets

How many brackets of a text are open at once can be counted without reading the text: it
is enough to know which characters stand inside quotes.  For a JSON text this count is the
depth of what the text is read as.
-/

namespace SearchRequest.Json

/-! ## Counting brackets -/

inductive Place where
  | outside
  | quoted
  /-- Inside quotes, just after a backslash. -/
  | escaped
  deriving DecidableEq, Repr

structure Brackets where
  place : Place
  /-- The number of brackets that are open here. -/
  opened : Nat
  /-- The greatest number of brackets that have been open at once. -/
  most : Nat
  deriving DecidableEq, Repr

namespace Brackets

def start : Brackets :=
  ⟨.outside, 0, 0⟩

/-- The count with one more character; brackets inside quotes do not count. -/
def step (brackets : Brackets) (c : Char) : Brackets :=
  match brackets.place with
  | .outside =>
      if c = '"' then { brackets with place := .quoted }
      else if c = '[' ∨ c = '\x7b' then
        { brackets with
          opened := brackets.opened + 1
          most := max brackets.most (brackets.opened + 1) }
      else if c = ']' ∨ c = '\x7d' then { brackets with opened := brackets.opened - 1 }
      else brackets
  | .quoted =>
      if c = '"' then { brackets with place := .outside }
      else if c = '\\' then { brackets with place := .escaped }
      else brackets
  | .escaped => { brackets with place := .quoted }

/-- Outside quotes a character that is no mark changes nothing. -/
theorem step_of_not_mark {brackets : Brackets} (outside : brackets.place = .outside) {c : Char}
    (notMark : c ∉ Reader.marks) : brackets.step c = brackets := by
  simp only [Reader.marks, List.mem_cons, not_or] at notMark
  simp [step, outside, notMark]

end Brackets

/-- The greatest number of brackets outside quotes that are open at once in a text. -/
def bracketDepth (text : String) : Nat :=
  (text.toList.foldl Brackets.step .start).most

/-! ## The depth of a spelling -/

namespace Spelling

/-- Induction over spellings, with one hypothesis for each item and each member. -/
theorem induction {motive : Spelling → Prop}
    (null : motive .null) (bool : ∀ value, motive (.bool value))
    (number : ∀ value, motive (.number value)) (text : ∀ content, motive (.text content))
    (array : ∀ items, (∀ item ∈ items, motive item) → motive (.array items))
    (object : ∀ members, (∀ member ∈ members, motive member.2) → motive (.object members))
    (spelling : Spelling) : motive spelling := by
  refine @Spelling.rec motive (fun items => ∀ item ∈ items, motive item)
    (fun members => ∀ member ∈ members, motive member.2) (fun member => motive member.2)
    null bool number text array object ?_ ?_ ?_ ?_ (fun _ _ ofValue => ofValue) spelling
  · intro item mem
    cases mem
  · intro item rest ofItem ofRest
    exact List.forall_mem_cons.mpr ⟨ofItem, ofRest⟩
  · intro member mem
    cases mem
  · intro member rest ofMember ofRest
    exact List.forall_mem_cons.mpr ⟨ofMember, ofRest⟩

mutual

/-- The number of brackets around the innermost part of a spelling. -/
def depth : Spelling → Nat
  | .null | .bool _ | .number _ | .text _ => 0
  | .array items => depthItems items + 1
  | .object members => depthMembers members + 1

def depthItems : List Spelling → Nat
  | [] => 0
  | item :: rest => max item.depth (depthItems rest)

def depthMembers : List (Option String × Spelling) → Nat
  | [] => 0
  | (_, value) :: rest => max value.depth (depthMembers rest)

end

theorem depthItems_le_iff {items : List Spelling} {bound : Nat} :
    depthItems items ≤ bound ↔ ∀ item ∈ items, item.depth ≤ bound := by
  induction items with
  | nil => simp [depthItems]
  | cons item rest ih => rw [depthItems, Nat.max_le, ih, List.forall_mem_cons]

theorem depthMembers_le_iff {members : List (Option String × Spelling)} {bound : Nat} :
    depthMembers members ≤ bound ↔ ∀ member ∈ members, member.2.depth ≤ bound := by
  induction members with
  | nil => simp [depthMembers]
  | cons member rest ih => rw [depthMembers, Nat.max_le, ih, List.forall_mem_cons]

theorem depthItems_reverse (items : List Spelling) :
    depthItems items.reverse = depthItems items :=
  eq_of_forall_ge_iff fun bound => by simp [depthItems_le_iff]

theorem depthMembers_reverse (members : List (Option String × Spelling)) :
    depthMembers members.reverse = depthMembers members :=
  eq_of_forall_ge_iff fun bound => by simp [depthMembers_le_iff]

end Spelling

/-! ## The count of a reader -/

namespace Reader

open Spelling (depthItems depthMembers)

/-- The greatest number of brackets that have been open at once inside open brackets. -/
def deepest : List Frame → Nat
  | [] => 0
  | .item before :: outer => max (deepest outer) (outer.length + 1 + depthItems before)
  | .member before _ :: outer => max (deepest outer) (outer.length + 1 + depthMembers before)

theorem length_le_deepest (frames : List Frame) : frames.length ≤ deepest frames := by
  cases frames with
  | nil => exact Nat.le_refl _
  | cons frame outer =>
      cases frame <;> rw [deepest, List.length_cons] <;> omega

def inside (frames : List Frame) : Brackets :=
  ⟨.outside, frames.length, deepest frames⟩

def behind (value : Spelling) (outer : List Frame) : Brackets :=
  ⟨.outside, outer.length, max (deepest outer) (outer.length + value.depth)⟩

def quotedPlace : QuotationPart → Place
  | .escaped => .escaped
  | .plain | .unit _ _ => .quoted

def quotedFrames (outer : List Frame) : Purpose → List Frame
  | .value => outer
  | .key before => .member before none :: outer

/-- The count that a reader has reached. -/
def brackets : Reader → Brackets
  | .value outer => inside outer
  | .firstItem outer => inside (.item [] :: outer)
  | .afterItem before outer => inside (.item before :: outer)
  | .firstKey outer => inside (.member [] none :: outer)
  | .nextKey before outer => inside (.member before none :: outer)
  | .colon before key outer => inside (.member before key :: outer)
  | .afterMember before outer => inside (.member before none :: outer)
  | .done read => behind read []
  | .word _ _ meaning outer => behind meaning outer
  | .quoted current purpose outer =>
      { inside (quotedFrames outer purpose) with place := quotedPlace current.part }
  | .numeral _ outer => inside outer

theorem behind_eq_inside {value : Spelling} (flat : value.depth = 0) (outer : List Frame) :
    behind value outer = inside outer := by
  have := length_le_deepest outer
  simp only [behind, inside, flat, Brackets.mk.injEq, true_and]
  omega

theorem brackets_deliver (value : Spelling) (outer : List Frame) :
    (deliver value outer).brackets = behind value outer := by
  cases outer with
  | nil => rfl
  | cons frame outer =>
      cases frame <;>
        simp only [deliver, brackets, inside, behind, deepest, depthItems, depthMembers,
          List.length_cons, Brackets.mk.injEq, true_and] <;> omega

theorem brackets_deliverText (content : Option String) (outer : List Frame)
    (purpose : Purpose) :
    (deliverText content outer purpose).brackets = inside (quotedFrames outer purpose) := by
  cases purpose with
  | value => rw [deliverText, brackets_deliver]; exact behind_eq_inside rfl outer
  | key before => rfl

/-! ## A step of the reader is a step of the count -/

theorem behind_array (before : List Spelling) (outer : List Frame) :
    behind (.array before.reverse) outer = (inside (.item before :: outer)).step ']' := by
  have closed : (inside (.item before :: outer)).step ']' =
      ⟨.outside, outer.length, deepest (.item before :: outer)⟩ := rfl
  simp only [closed, behind, deepest, Spelling.depth, Spelling.depthItems_reverse,
    Brackets.mk.injEq, true_and]
  omega

theorem behind_object (before : List (Option String × Spelling)) (key : Option String)
    (outer : List Frame) :
    behind (.object before.reverse) outer = (inside (.member before key :: outer)).step '\x7d' := by
  have closed : (inside (.member before key :: outer)).step '\x7d' =
      ⟨.outside, outer.length, deepest (.member before key :: outer)⟩ := rfl
  simp only [closed, behind, deepest, Spelling.depth, Spelling.depthMembers_reverse,
    Brackets.mk.injEq, true_and]
  omega

theorem notMem_marks {letters : List Char} (all : letters.all (· ∉ marks) = true) :
    ∀ c ∈ letters, c ∉ marks := by
  intro c mem
  exact of_decide_eq_true (List.all_eq_true.mp all c mem)

/-- What the first character of a value leads to, and which characters are marks. -/
theorem beginValue?_cases {outer : List Frame} {c : Char} {next : Reader}
    (begun : beginValue? outer c = some next) :
    (c = '"' ∧ next = .quoted .start .value outer) ∨
    (c = '[' ∧ next = .firstItem outer) ∨
    (c = '\x7b' ∧ next = .firstKey outer) ∨
    (c ∉ marks ∧ ∃ letter rest meaning, next = .word letter rest meaning outer ∧
      meaning.depth = 0 ∧ ∀ c ∈ letter :: rest, c ∉ marks) ∨
    (c ∉ marks ∧ ∃ current, next = .numeral current outer) := by
  unfold beginValue? at begun
  split at begun
  · next quote => cases begun; exact Or.inl ⟨quote, rfl⟩
  refine Or.inr ?_
  split at begun
  · next bracket => cases begun; exact Or.inl ⟨bracket, rfl⟩
  refine Or.inr ?_
  split at begun
  · next brace => cases begun; exact Or.inl ⟨brace, rfl⟩
  refine Or.inr ?_
  split at begun
  · next letter =>
      subst letter
      cases begun
      exact Or.inl ⟨by decide, 'r', ['u', 'e'], .bool true, rfl, rfl, notMem_marks rfl⟩
  split at begun
  · next letter =>
      subst letter
      cases begun
      exact Or.inl ⟨by decide, 'a', ['l', 's', 'e'], .bool false, rfl, rfl, notMem_marks rfl⟩
  split at begun
  · next letter =>
      subst letter
      cases begun
      exact Or.inl ⟨by decide, 'u', ['l', 'l'], .null, rfl, rfl, notMem_marks rfl⟩
  refine Or.inr ⟨?_, ?_⟩
  · intro mark
    rw [begin?_eq_none_of_mark mark] at begun
    cases begun
  · obtain ⟨current, _, rfl⟩ := Option.map_eq_some_iff.mp begun
    exact ⟨current, rfl⟩

theorem brackets_beginValue? {outer : List Frame} {c : Char} {next : Reader}
    (begun : beginValue? outer c = some next) : next.brackets = (inside outer).step c := by
  obtain ⟨rfl, rfl⟩ | ⟨rfl, rfl⟩ | ⟨rfl, rfl⟩ | ⟨notMark, _, _, _, rfl, flat, _⟩ |
    ⟨notMark, _, rfl⟩ := beginValue?_cases begun
  · rfl
  · rfl
  · rfl
  · rw [brackets, behind_eq_inside flat, Brackets.step_of_not_mark rfl notMark]
  · rw [brackets, Brackets.step_of_not_mark rfl notMark]

theorem brackets_mark? {reader next : Reader} {c : Char} (marked : reader.mark? c = some next) :
    next.brackets = reader.brackets.step c := by
  cases marked_of_mark? marked with
  | value begun => exact brackets_beginValue? begun
  | item begun => exact brackets_beginValue? begun
  | noItem outer => rw [brackets_deliver]; exact behind_array [] outer
  | lastItem before outer => rw [brackets_deliver]; exact behind_array before outer
  | noMember outer => rw [brackets_deliver]; exact behind_object [] none outer
  | lastMember before outer => rw [brackets_deliver]; exact behind_object before none outer
  | _ => rfl

theorem not_mark_of_isBlank {c : Char} (blank : isBlank c = true) : c ∉ marks := by
  simp only [isBlank, Bool.or_eq_true, decide_eq_true_eq] at blank
  rcases blank with ((rfl | rfl) | rfl) | rfl <;> decide

theorem brackets_between? {reader next : Reader} {c : Char}
    (outside : reader.brackets.place = .outside) (stepped : reader.between? c = some next) :
    next.brackets = reader.brackets.step c := by
  unfold between? at stepped
  split at stepped
  · next blank =>
      cases stepped
      exact (Brackets.step_of_not_mark outside (not_mark_of_isBlank blank)).symm
  · exact brackets_mark? stepped

def outcomePlace : Quotation.Outcome → Place
  | .further quotation => quotedPlace quotation.part
  | .closed _ => .outside

theorem part_addUnit (quotation : Quotation) (value : Nat) :
    (quotation.addUnit value).part = .plain := by
  unfold Quotation.addUnit
  dsimp only
  split <;> split
  · rfl
  · rfl
  · rfl
  · split <;> rfl

theorem step_quotedPlace {quotation : Quotation} {c : Char} {outcome : Quotation.Outcome}
    (stepped : quotation.step? c = some outcome) (opened most : Nat) :
    (Brackets.mk (quotedPlace quotation.part) opened most).step c =
      ⟨outcomePlace outcome, opened, most⟩ := by
  unfold Quotation.step? at stepped
  cases part : quotation.part with
  | plain =>
      rw [part] at stepped
      dsimp only at stepped
      split at stepped
      · next quote => subst quote; cases stepped; rfl
      split at stepped
      · next backslash => subst backslash; cases stepped; rfl
      split at stepped
      · cases stepped
      · next notQuote notBackslash _ =>
          cases stepped
          simp [Brackets.step, quotedPlace, outcomePlace, Quotation.addChar, notQuote,
            notBackslash]
  | escaped =>
      rw [part] at stepped
      dsimp only at stepped
      split at stepped
      · cases stepped; rfl
      · obtain ⟨meaning, _, rfl⟩ := Option.map_eq_some_iff.mp stepped
        rfl
  | unit left value =>
      rw [part] at stepped
      obtain ⟨digit, isDigit, rfl⟩ := Option.map_eq_some_iff.mp stepped
      have notQuote : c ≠ '"' := by rintro rfl; cases isDigit
      have notBackslash : c ≠ '\\' := by rintro rfl; cases isDigit
      cases left with
      | zero =>
          simp [Brackets.step, quotedPlace, outcomePlace, part_addUnit, notQuote, notBackslash]
      | succ left => simp [Brackets.step, quotedPlace, outcomePlace, notQuote, notBackslash]

/-- A word that is being read has no mark in it. -/
def Lettered : Reader → Prop
  | .word next rest _ _ => ∀ c ∈ next :: rest, c ∉ marks
  | _ => True

theorem lettered_deliver (value : Spelling) (outer : List Frame) :
    (deliver value outer).Lettered := by
  cases outer with
  | nil => trivial
  | cons frame outer => cases frame <;> trivial

theorem lettered_beginValue? {outer : List Frame} {c : Char} {next : Reader}
    (begun : beginValue? outer c = some next) : next.Lettered := by
  obtain ⟨_, rfl⟩ | ⟨_, rfl⟩ | ⟨_, rfl⟩ | ⟨_, _, _, _, rfl, _, clear⟩ | ⟨_, _, rfl⟩ :=
    beginValue?_cases begun
  · trivial
  · trivial
  · trivial
  · exact clear
  · trivial

theorem lettered_between? {reader next : Reader} {c : Char} (lettered : reader.Lettered)
    (stepped : reader.between? c = some next) : next.Lettered := by
  unfold between? at stepped
  split at stepped
  · cases stepped
    exact lettered
  cases marked_of_mark? stepped with
  | value begun => exact lettered_beginValue? begun
  | item begun => exact lettered_beginValue? begun
  | noItem outer => exact lettered_deliver _ outer
  | lastItem before outer => exact lettered_deliver _ outer
  | noMember outer => exact lettered_deliver _ outer
  | lastMember before outer => exact lettered_deliver _ outer
  | _ => trivial

/-- One character takes a reader and the count of its brackets to the same place. -/
theorem brackets_step? {reader next : Reader} {c : Char} (lettered : reader.Lettered)
    (stepped : reader.step? c = some next) :
    next.Lettered ∧ next.brackets = reader.brackets.step c := by
  cases reader with
  | word letter rest meaning outer =>
      simp only [step?] at stepped
      split at stepped
      · next expected =>
          subst expected
          -- The reader does not say that its next letter is no bracket, so the invariant has to.
          have same : (behind meaning outer).step c = behind meaning outer :=
            Brackets.step_of_not_mark rfl (lettered c (by simp))
          cases rest with
          | nil =>
              cases stepped
              exact ⟨lettered_deliver _ outer, by rw [brackets_deliver, brackets, same]⟩
          | cons following rest =>
              cases stepped
              exact ⟨fun c mem => lettered c (List.mem_cons_of_mem _ mem), same.symm⟩
      · cases stepped
  | quoted current purpose outer =>
      simp only [step?] at stepped
      obtain ⟨outcome, found, rfl⟩ := Option.map_eq_some_iff.mp stepped
      have counted := step_quotedPlace found (inside (quotedFrames outer purpose)).opened
        (inside (quotedFrames outer purpose)).most
      cases outcome with
      | further quotation => exact ⟨trivial, counted.symm⟩
      | closed content =>
          refine ⟨?_, ?_⟩
          · cases purpose with
            | value => exact lettered_deliver _ outer
            | key before => trivial
          · rw [brackets_deliverText]
            exact counted.symm
  | numeral current outer =>
      simp only [step?] at stepped
      split at stepped
      · next further goesOn =>
          cases stepped
          have notMark : c ∉ marks := by
            intro mark
            rw [step?_eq_none_of_mark current mark] at goesOn
            cases goesOn
          exact ⟨trivial, (Brackets.step_of_not_mark rfl notMark).symm⟩
      · obtain ⟨read, _, further⟩ := Option.bind_eq_some_iff.mp stepped
        have counted : (deliver (.number read) outer).brackets = inside outer := by
          rw [brackets_deliver, behind_eq_inside rfl]
        refine ⟨lettered_between? (lettered_deliver _ outer) further, ?_⟩
        rw [brackets_between? (by rw [counted]; rfl) further, counted]
        rfl
  | _ => exact ⟨lettered_between? lettered stepped, brackets_between? rfl stepped⟩

/-- A run of the reader is a run of the count. -/
theorem brackets_run? {reader last : Reader} {characters : List Char}
    (lettered : reader.Lettered) (ran : reader.run? characters = some last) :
    last.brackets = characters.foldl Brackets.step reader.brackets := by
  induction characters generalizing reader with
  | nil => cases ran; rfl
  | cons c rest ih =>
      rw [run?_cons] at ran
      obtain ⟨next, stepped, further⟩ := Option.bind_eq_some_iff.mp ran
      obtain ⟨stillLettered, counted⟩ := brackets_step? lettered stepped
      rw [List.foldl_cons, ← counted]
      exact ih stillLettered further

theorem Behind.brackets_eq {reader : Reader} {value : Spelling} {outer : List Frame}
    (stands : reader.Behind value outer) : reader.brackets = behind value outer := by
  cases stands with
  | delivered => exact brackets_deliver value outer
  | numeral => exact (behind_eq_inside rfl outer).symm

end Reader

/-- The open brackets of a JSON text are counted by the depth of what it is read as. -/
theorem bracketDepth_eq_depth {text : String} {value : Spelling}
    (spelled : Spelling.ofText? text = some value) : bracketDepth text = value.depth := by
  obtain ⟨reader, ran, stands⟩ := spells_iff.mpr spelled []
  have lettered : (Reader.value []).Lettered := trivial
  have counted := Reader.brackets_run? lettered ran
  rw [stands.brackets_eq] at counted
  calc bracketDepth text = (Reader.behind value []).most := (congrArg Brackets.most counted).symm
    _ = value.depth := by simp [Reader.behind, Reader.deepest]

end SearchRequest.Json

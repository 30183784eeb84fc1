import SearchRequest.Proofs.Json.Quotation

/-!
# Values inside larger texts

A JSON text means the same wherever a value may stand.  The reader never looks at the
brackets that were open before the value began, so a run on the text alone is also a run
below those brackets.  Only the end needs care: a numeral is not over before the next
character comes.
-/

namespace SearchRequest.Json

namespace Reader

/-- The reader with further open brackets around everything that it has read. -/
def under (below : List Frame) : Reader → Reader
  | .value outer => .value (outer ++ below)
  | .firstItem outer => .firstItem (outer ++ below)
  | .afterItem before outer => .afterItem before (outer ++ below)
  | .firstKey outer => .firstKey (outer ++ below)
  | .nextKey before outer => .nextKey before (outer ++ below)
  | .colon before key outer => .colon before key (outer ++ below)
  | .afterMember before outer => .afterMember before (outer ++ below)
  | .done read => deliver read below
  | .word next rest meaning outer => .word next rest meaning (outer ++ below)
  | .quoted current purpose outer => .quoted current purpose (outer ++ below)
  | .numeral current outer => .numeral current (outer ++ below)

variable (below : List Frame)

theorem under_deliver (value : Spelling) (outer : List Frame) :
    (deliver value outer).under below = deliver value (outer ++ below) := by
  cases outer with
  | nil => rfl
  | cons frame outer => cases frame <;> rfl

theorem under_deliverText (content : Option String) (outer : List Frame) (purpose : Purpose) :
    (deliverText content outer purpose).under below =
      deliverText content (outer ++ below) purpose := by
  cases purpose with
  | value => exact under_deliver below _ outer
  | key before => rfl

/-- Behind a value only blanks and the marks of the innermost bracket may come. -/
theorem step?_deliver (value : Spelling) (outer : List Frame) (c : Char) :
    (deliver value outer).step? c = (deliver value outer).between? c := by
  cases outer with
  | nil => rfl
  | cons frame outer => cases frame <;> rfl

theorem beginValue?_append (outer : List Frame) (c : Char) :
    beginValue? (outer ++ below) c = (beginValue? outer c).map (under below) := by
  simp only [beginValue?, apply_ite (Option.map _), Option.map_some, Option.map_map]
  rfl

/-- What a character that is neither blank nor inside a part of the text leads to. -/
inductive Marked : Reader → Char → Reader → Prop where
  | value {outer : List Frame} {c : Char} {next : Reader}
      (begun : beginValue? outer c = some next) : Marked (.value outer) c next
  | item {outer : List Frame} {c : Char} {next : Reader}
      (begun : beginValue? (.item [] :: outer) c = some next) : Marked (.firstItem outer) c next
  | noItem (outer : List Frame) : Marked (.firstItem outer) ']' (deliver (.array []) outer)
  | nextItem (before : List Spelling) (outer : List Frame) :
      Marked (.afterItem before outer) ',' (.value (.item before :: outer))
  | lastItem (before : List Spelling) (outer : List Frame) :
      Marked (.afterItem before outer) ']' (deliver (.array before.reverse) outer)
  | firstKey (outer : List Frame) :
      Marked (.firstKey outer) '"' (.quoted .start (.key []) outer)
  | noMember (outer : List Frame) :
      Marked (.firstKey outer) '\x7d' (deliver (.object []) outer)
  | nextKey (before : List (Option String × Spelling)) (outer : List Frame) :
      Marked (.nextKey before outer) '"' (.quoted .start (.key before) outer)
  | colon (before : List (Option String × Spelling)) (key : Option String)
      (outer : List Frame) :
      Marked (.colon before key outer) ':' (.value (.member before key :: outer))
  | nextMember (before : List (Option String × Spelling)) (outer : List Frame) :
      Marked (.afterMember before outer) ',' (.nextKey before outer)
  | lastMember (before : List (Option String × Spelling)) (outer : List Frame) :
      Marked (.afterMember before outer) '\x7d' (deliver (.object before.reverse) outer)

theorem marked_of_mark? {reader next : Reader} {c : Char}
    (marked : reader.mark? c = some next) : Marked reader c next := by
  cases reader with
  | value outer => exact .value marked
  | firstItem outer =>
      rw [mark?] at marked
      split at marked
      · next close => subst close; cases marked; exact .noItem outer
      · exact .item marked
  | afterItem before outer =>
      rw [mark?] at marked
      split at marked
      · next comma => subst comma; cases marked; exact .nextItem before outer
      split at marked
      · next close => subst close; cases marked; exact .lastItem before outer
      · cases marked
  | firstKey outer =>
      rw [mark?] at marked
      split at marked
      · next quote => subst quote; cases marked; exact .firstKey outer
      split at marked
      · next close => subst close; cases marked; exact .noMember outer
      · cases marked
  | nextKey before outer =>
      rw [mark?] at marked
      split at marked
      · next quote => subst quote; cases marked; exact .nextKey before outer
      · cases marked
  | colon before key outer =>
      rw [mark?] at marked
      split at marked
      · next colon => subst colon; cases marked; exact .colon before key outer
      · cases marked
  | afterMember before outer =>
      rw [mark?] at marked
      split at marked
      · next comma => subst comma; cases marked; exact .nextMember before outer
      split at marked
      · next close => subst close; cases marked; exact .lastMember before outer
      · cases marked
  | done read => cases marked
  | word next rest meaning outer => cases marked
  | quoted current purpose outer => cases marked
  | numeral current outer => cases marked

theorem Marked.mark?_eq {reader next : Reader} {c : Char} (marked : Marked reader c next) :
    reader.mark? c = some next := by
  cases marked with
  | value begun => exact begun
  | item begun =>
      have notClose : c ≠ ']' := by rintro rfl; cases begun
      rw [mark?, if_neg notClose, begun]
  | _ => rfl

theorem mark?_under {reader next : Reader} {c : Char} (marked : reader.mark? c = some next) :
    (reader.under below).mark? c = some (next.under below) := by
  have begun {outer : List Frame} (begun : beginValue? outer c = some next) :
      beginValue? (outer ++ below) c = some (next.under below) := by
    rw [beginValue?_append, begun, Option.map_some]
  cases marked_of_mark? marked with
  | value found => exact (Marked.value (begun found)).mark?_eq
  | item found => exact (Marked.item (begun found)).mark?_eq
  | noItem outer => rw [under_deliver]; rfl
  | lastItem before outer => rw [under_deliver]; rfl
  | noMember outer => rw [under_deliver]; rfl
  | lastMember before outer => rw [under_deliver]; rfl
  | _ => rfl

theorem between?_under {reader next : Reader} {c : Char}
    (stepped : reader.between? c = some next) :
    (reader.under below).between? c = some (next.under below) := by
  unfold between? at stepped ⊢
  split at stepped
  · next blank => cases stepped; rw [if_pos blank]
  · next mark => rw [if_neg mark]; exact mark?_under below stepped

/-- A step of the reader does not depend on the brackets around it. -/
theorem step?_under {reader next : Reader} {c : Char} (stepped : reader.step? c = some next) :
    (reader.under below).step? c = some (next.under below) := by
  cases reader with
  | word letter rest meaning outer =>
      rw [under]
      simp only [step?] at stepped ⊢
      split at stepped
      · next expected =>
          rw [if_pos expected]
          cases rest with
          | nil => cases stepped; rw [under_deliver]
          | cons letter rest => cases stepped; rfl
      · cases stepped
  | quoted current purpose outer =>
      rw [under]
      simp only [step?] at stepped ⊢
      obtain ⟨outcome, found, rfl⟩ := Option.map_eq_some_iff.mp stepped
      rw [found]
      cases outcome with
      | further quotation => rfl
      | closed content => rw [under_deliverText]; rfl
  | numeral current outer =>
      rw [under]
      simp only [step?] at stepped ⊢
      split at stepped
      · cases stepped; rfl
      · obtain ⟨read, finished, further⟩ := Option.bind_eq_some_iff.mp stepped
        rw [finished, Option.bind_some, ← under_deliver]
        exact between?_under below further
  | done read =>
      have further := between?_under below stepped
      rwa [under, ← step?_deliver] at further
  | _ => exact between?_under below stepped

/-- A run of the reader does not depend on the brackets around it. -/
theorem run?_under {reader last : Reader} {characters : List Char}
    (ran : reader.run? characters = some last) :
    (reader.under below).run? characters = some (last.under below) := by
  induction characters generalizing reader with
  | nil => cases ran; rfl
  | cons c rest ih =>
      rw [run?_cons] at ran ⊢
      obtain ⟨next, stepped, further⟩ := Option.bind_eq_some_iff.mp ran
      rw [step?_under below stepped, Option.bind_some]
      exact ih further

/-! ## Behind a value -/

/-- The reader stands behind a value; a numeral there may still go on. -/
inductive Behind : Reader → Spelling → List Frame → Prop where
  | delivered (value : Spelling) (outer : List Frame) : Behind (deliver value outer) value outer
  | numeral {current : Numeral} {read : Option Number} (finished : current.finish? = some read)
      (outer : List Frame) : Behind (.numeral current outer) (.number read) outer

theorem finish?_eq_some_iff {reader : Reader} {value : Spelling} :
    reader.finish? = some value ↔ reader.Behind value [] := by
  constructor
  · intro finished
    cases reader with
    | done read => cases finished; exact .delivered value []
    | numeral current outer =>
        cases outer with
        | nil =>
            obtain ⟨read, ended, rfl⟩ := Option.map_eq_some_iff.mp finished
            exact .numeral ended []
        | cons frame outer => cases finished
    | _ => cases finished
  · intro behind
    cases behind with
    | delivered => rfl
    | numeral finished => simp [finish?, finished]

theorem Behind.under {reader : Reader} {value : Spelling} {outer : List Frame}
    (behind : reader.Behind value outer) (below : List Frame) :
    (reader.under below).Behind value (outer ++ below) := by
  cases behind with
  | delivered => rw [under_deliver]; exact .delivered value _
  | numeral finished => exact .numeral finished _

def marks : List Char :=
  ['"', ',', ':', '[', ']', '\x7b', '\x7d']

/-- No numeral begins with a mark. -/
theorem begin?_eq_none_of_mark {c : Char} (mark : c ∈ marks) : Numeral.begin? c = none := by
  have all : marks.all (fun c => (Numeral.begin? c).isNone) = true := by decide
  exact Option.isNone_iff_eq_none.mp (List.all_eq_true.mp all c mark)

/-- No numeral goes on with a mark. -/
theorem step?_eq_none_of_mark (current : Numeral) {c : Char} (mark : c ∈ marks) :
    current.step? c = none := by
  have notDigit : Numeral.digit? c = none := by
    have all : marks.all (fun c => (Numeral.digit? c).isNone) = true := by decide
    exact Option.isNone_iff_eq_none.mp (List.all_eq_true.mp all c mark)
  have notPoint : c ≠ '.' := by rintro rfl; revert mark; decide
  have notMark : ¬(c = 'e' ∨ c = 'E') := by rintro (rfl | rfl) <;> revert mark <;> decide
  have notPlus : c ≠ '+' := by rintro rfl; revert mark; decide
  have notMinus : c ≠ '-' := by rintro rfl; revert mark; decide
  cases part : current.part <;>
    simp [Numeral.step?, Numeral.afterPart?, part, notDigit, notPoint, notMark, notPlus, notMinus]

/-- A mark ends whatever value stands before it. -/
theorem Behind.step?_mark {reader : Reader} {value : Spelling} {outer : List Frame}
    (behind : reader.Behind value outer) {c : Char} (mark : c ∈ marks) :
    reader.step? c = (deliver value outer).step? c := by
  cases behind with
  | delivered => rfl
  | @numeral current _ finished =>
      rw [step?_deliver]
      simp only [step?, step?_eq_none_of_mark current mark, finished, Option.bind_some]

theorem step?_item_comma (value : Spelling) (before : List Spelling) (outer : List Frame) :
    (deliver value (.item before :: outer)).step? ',' =
      some (.value (.item (value :: before) :: outer)) :=
  rfl

theorem step?_item_close (value : Spelling) (before : List Spelling) (outer : List Frame) :
    (deliver value (.item before :: outer)).step? ']' =
      some (deliver (.array (value :: before).reverse) outer) :=
  rfl

theorem step?_member_comma (value : Spelling) (before : List (Option String × Spelling))
    (key : Option String) (outer : List Frame) :
    (deliver value (.member before key :: outer)).step? ',' =
      some (.nextKey ((key, value) :: before) outer) :=
  rfl

theorem step?_member_close (value : Spelling) (before : List (Option String × Spelling))
    (key : Option String) (outer : List Frame) :
    (deliver value (.member before key :: outer)).step? '\x7d' =
      some (deliver (.object ((key, value) :: before).reverse) outer) :=
  rfl

/-- Behind a value no other value begins. -/
theorem Behind.ne_value {reader : Reader} {value : Spelling} {outer : List Frame}
    (behind : reader.Behind value outer) (other : List Frame) : reader ≠ .value other := by
  cases behind with
  | delivered =>
      cases outer with
      | nil => exact Reader.noConfusion
      | cons frame outer => cases frame <;> exact Reader.noConfusion
  | numeral => exact Reader.noConfusion

/-- Where a value can be read, it can also be read as the first item of an array. -/
theorem run?_firstItem {outer : List Frame} {characters : List Char} {last : Reader}
    (ran : (Reader.value (.item [] :: outer)).run? characters = some last)
    (ended : ∀ other, last ≠ .value other) :
    (Reader.firstItem outer).run? characters = some last := by
  induction characters with
  | nil => cases ran; exact absurd rfl (ended _)
  | cons c rest ih =>
      rw [run?_cons] at ran ⊢
      obtain ⟨next, stepped, further⟩ := Option.bind_eq_some_iff.mp ran
      change (if isBlank c then some (Reader.value _) else beginValue? _ c) = some next at stepped
      change (if isBlank c then some (Reader.firstItem outer) else
        if c = ']' then some (deliver (.array []) outer) else beginValue? _ c).bind _ = some last
      split at stepped
      · next blank =>
          cases stepped
          rw [if_pos blank, Option.bind_some]
          exact ih further
      · next mark =>
          have notClose : c ≠ ']' := by
            rintro rfl
            cases stepped
          rw [if_neg mark, if_neg notClose, stepped, Option.bind_some]
          exact further

/-- The first key of an object is read like any other. -/
theorem run?_firstKey (outer : List Frame) (rest : List Char) :
    (Reader.firstKey outer).run? ('"' :: rest) = (Reader.nextKey [] outer).run? ('"' :: rest) :=
  rfl

end Reader

/-! ## Texts of values -/

/-- Wherever a value may stand, the characters are read as the given one. -/
def Spells (characters : List Char) (value : Spelling) : Prop :=
  ∀ outer, ∃ reader, (Reader.value outer).run? characters = some reader ∧
    reader.Behind value outer

/-- What a text is read as on its own is what it is read as inside any other text. -/
theorem spells_iff {text : String} {value : Spelling} :
    Spells text.toList value ↔ Spelling.ofText? text = some value := by
  rw [Spelling.ofText?, Option.bind_eq_some_iff]
  constructor
  · intro spells
    obtain ⟨reader, ran, behind⟩ := spells []
    exact ⟨reader, ran, Reader.finish?_eq_some_iff.mpr behind⟩
  · rintro ⟨reader, ran, finished⟩ outer
    refine ⟨reader.under outer, Reader.run?_under outer ran, ?_⟩
    exact (Reader.finish?_eq_some_iff.mp finished).under outer

namespace Spells

open Reader

variable {characters : List Char} {value : Spelling}

/-- A text in quotes is read as that text. -/
theorem quote (text : String) : Spells (quote text).toList (.text (some text)) := by
  intro outer
  refine ⟨deliver (.text (some text)) outer, ?_, .delivered _ outer⟩
  rw [toList_quote, run?_cons]
  exact run?_quoted .value outer text

/-- Together with the mark behind it a value is read to its end. -/
theorem run?_mark (spells : Spells characters value) (outer : List Frame) {c : Char}
    (mark : c ∈ marks) :
    (Reader.value outer).run? (characters ++ [c]) = (deliver value outer).step? c := by
  obtain ⟨reader, ran, behind⟩ := spells outer
  rw [run?_append, ran, Option.bind_some, run?_singleton, behind.step?_mark mark]

/-- The first item of an array is read like any other. -/
theorem run?_firstItem (spells : Spells characters value) (outer : List Frame)
    (rest : List Char) :
    (Reader.firstItem outer).run? (characters ++ rest) =
      (Reader.value (.item [] :: outer)).run? (characters ++ rest) := by
  obtain ⟨reader, ran, behind⟩ := spells (.item [] :: outer)
  rw [run?_append, run?_append, ran, Reader.run?_firstItem ran behind.ne_value]

end Spells

end SearchRequest.Json

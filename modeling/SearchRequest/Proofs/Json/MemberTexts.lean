import SearchRequest.Proofs.Json.Meaning
import SearchRequest.Proofs.Json.Unambiguous

/-!
# Texts of members

A text can hold members of an object without the braces around them, each with a comma behind
it.  Such a text can be put in front of the last member of an object, and then the object has
these members too.  Keys and values may be spelled in any way, and blanks may stand between
the parts.
-/

namespace SearchRequest.Json

namespace Reader

/-- Characters that do not move the reader do not move it together. -/
theorem run?_eq_self {reader : Reader} {characters : List Char}
    (still : ∀ c ∈ characters, reader.step? c = some reader) :
    reader.run? characters = some reader := by
  induction characters with
  | nil => rfl
  | cons c rest ih =>
      rw [List.forall_mem_cons] at still
      rw [run?_cons, still.1, Option.bind_some, ih still.2]

variable {blanks : List Char}

theorem run?_done_of_blank (read : Spelling) (blank : ∀ c ∈ blanks, isBlank c = true) :
    (Reader.done read).run? blanks = some (.done read) :=
  run?_eq_self fun c mem => if_pos (blank c mem)

theorem run?_colon_of_blank (before : List (Option String × Spelling)) (key : Option String)
    (outer : List Frame) (blank : ∀ c ∈ blanks, isBlank c = true) :
    (Reader.colon before key outer).run? blanks = some (.colon before key outer) :=
  run?_eq_self fun c mem => if_pos (blank c mem)

theorem run?_nextKey_of_blank (before : List (Option String × Spelling)) (outer : List Frame)
    (blank : ∀ c ∈ blanks, isBlank c = true) :
    (Reader.nextKey before outer).run? blanks = some (.nextKey before outer) :=
  run?_eq_self fun c mem => if_pos (blank c mem)

/-- What is read as a quoted text of its own is read as a key where a key must come. -/
theorem run?_quoted_key {current : Quotation} {characters : List Char} {last : Reader}
    {content : Option String}
    (ran : (Reader.quoted current .value []).run? characters = some last)
    (ended : last.finish? = some (.text content)) (before : List (Option String × Spelling))
    (outer : List Frame) :
    (Reader.quoted current (.key before) outer).run? characters =
      some (.colon before content outer) := by
  induction characters generalizing current with
  | nil =>
      cases ran
      cases ended
  | cons c rest ih =>
      rw [run?_cons] at ran ⊢
      obtain ⟨next, stepped, further⟩ := Option.bind_eq_some_iff.mp ran
      simp only [step?] at stepped ⊢
      obtain ⟨outcome, found, rfl⟩ := Option.map_eq_some_iff.mp stepped
      rw [found]
      cases outcome with
      | further quotation => exact ih further
      | closed content' =>
          have done : (Reader.done (.text content')).run? rest = some last := further
          have blank := run?_done done
          rw [run?_done_of_blank _ blank] at done
          cases done
          cases ended
          exact run?_colon_of_blank before content outer blank

end Reader

open Reader (isBlank)

/--
The text holds these members, each with a comma behind it.  A key is any text that begins with
a quote and means the key, and a value is any text that means the value.
-/
inductive HoldsMembers : String → List (String × Json) → Prop where
  | blank {blanks : String} (blank : ∀ c ∈ blanks.toList, isBlank c = true) :
      HoldsMembers blanks []
  | member {blanks keyRest valueText rest key : String} {value : Json}
      {members : List (String × Json)} (blank : ∀ c ∈ blanks.toList, isBlank c = true)
      (named : ofText? ("\"" ++ keyRest) = some (.text key))
      (valued : ofText? valueText = some value) (holds : HoldsMembers rest members) :
      HoldsMembers (blanks ++ ("\"" ++ keyRest ++ ":") ++ (valueText ++ ",") ++ rest)
        ((key, value) :: members)

/-- A key is read up to the colon behind it, however it is spelled. -/
theorem run?_keyText {keyRest key : String} (named : ofText? ("\"" ++ keyRest) = some (.text key))
    (before : List (Option String × Spelling)) (outer : List Frame) :
    (Reader.nextKey before outer).run? ("\"" ++ keyRest ++ ":").toList =
      some (.value (.member before (some key) :: outer)) := by
  obtain ⟨spelling, spelled, -, means⟩ := ofText?_eq_some_iff.mp named
  rw [Spelling.value?_eq_text_iff.mp means, Spelling.ofText?] at spelled
  obtain ⟨last, ran, ended⟩ := Option.bind_eq_some_iff.mp spelled
  have begins : ("\"" ++ keyRest).toList = '"' :: keyRest.toList := by
    simp
  rw [begins] at ran
  have quoted : (Reader.quoted .start .value []).run? keyRest.toList = some last := ran
  have characters : ("\"" ++ keyRest ++ ":").toList = '"' :: (keyRest.toList ++ [':']) := by
    simp
  have opened : (Reader.nextKey before outer).step? '"' =
      some (.quoted .start (.key before) outer) := rfl
  rw [characters, Reader.run?_cons, opened, Option.bind_some, Reader.run?_append,
    Reader.run?_quoted_key quoted ended]
  rfl

/-- The members that a text holds are read where a key must come. -/
theorem HoldsMembers.run? {content : String} {members : List (String × Json)}
    (holds : HoldsMembers content members) (before : List (Option String × Spelling))
    (outer : List Frame) :
    ∃ spelled, Spelling.valueMembers? spelled = some members ∧
      (Reader.nextKey before outer).run? content.toList =
        some (.nextKey (spelled.reverse ++ before) outer) := by
  induction holds generalizing before with
  | blank blank => exact ⟨[], rfl, Reader.run?_nextKey_of_blank before outer blank⟩
  | @member blanks keyRest valueText rest key value members blank named valued holds ih =>
      obtain ⟨spelling, spelled, -, means⟩ := ofText?_eq_some_iff.mp valued
      obtain ⟨others, meanOthers, ran⟩ := ih ((some key, spelling) :: before)
      refine ⟨(some key, spelling) :: others, ?_, ?_⟩
      · rw [Spelling.valueMembers?, means, meanOthers]
        rfl
      · have comma := (spells_iff.mpr spelled).run?_mark (.member before (some key) :: outer)
          (by decide : ',' ∈ Reader.marks)
        have characters : (valueText ++ ",").toList = valueText.toList ++ [','] := by
          simp
        rw [String.toList_append, String.toList_append, String.toList_append, Reader.run?_append,
          Reader.run?_append, Reader.run?_append, Reader.run?_nextKey_of_blank before outer blank,
          Option.bind_some, run?_keyText named, Option.bind_some, characters, comma,
          Reader.step?_member_comma, Option.bind_some, ran]
        simp

end SearchRequest.Json

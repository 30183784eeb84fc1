import SearchRequest.Proofs.Traversal
import SearchRequest.Proofs.Xml.Characters

/-!
# Entities read back

In an escaped text every `&` begins an entity, so one pass over it gives back the text: where an
entity stands, its character takes its place, and the pass goes on behind it.  A text that looks
like an escaped one is no exception, since its `&` were escaped too.
-/

namespace SearchRequest.Xml

/-! ## One pass over an escaped text -/

/-- Replace the entities from left to right; what was replaced is not looked at again. -/
def unescapeChars : List Char → List Char
  | '&' :: 'a' :: 'm' :: 'p' :: ';' :: rest => '&' :: unescapeChars rest
  | '&' :: 'l' :: 't' :: ';' :: rest => '<' :: unescapeChars rest
  | '&' :: 'g' :: 't' :: ';' :: rest => '>' :: unescapeChars rest
  | '&' :: 'q' :: 'u' :: 'o' :: 't' :: ';' :: rest => '"' :: unescapeChars rest
  | '&' :: 'a' :: 'p' :: 'o' :: 's' :: ';' :: rest => '\'' :: unescapeChars rest
  | c :: rest => c :: unescapeChars rest
  | [] => []

def unescape (text : String) : String :=
  String.ofList (unescapeChars text.toList)

theorem unescapeChars_plain {c : Char} (plain : c ≠ '&') (rest : List Char) :
    unescapeChars (c :: rest) = c :: unescapeChars rest := by
  rw [unescapeChars]
  all_goals
    intros
    exact absurd ‹c = '&'› plain

theorem unescapeChars_entity {c : Char} {name : List Char} (entity : (c, name) ∈ entities)
    (rest : List Char) : unescapeChars ('&' :: (name ++ ';' :: rest)) = c :: unescapeChars rest := by
  have all : ∀ entity ∈ entities,
      unescapeChars ('&' :: (entity.2 ++ ';' :: rest)) = entity.1 :: unescapeChars rest := by
    simp only [entities, List.forall_mem_cons]
    exact ⟨rfl, rfl, rfl, rfl, rfl, List.forall_mem_nil _⟩
  exact all _ entity

/-- What is written for a character is replaced by that character. -/
theorem unescapeChars_charSpelling (c : Char) (rest : List Char) :
    unescapeChars (charSpelling c ++ rest) = c :: unescapeChars rest := by
  have ampersand : '&' ∈ entities.map Prod.fst := by decide
  rcases charSpelling_cases c with ⟨plain, spelled⟩ | ⟨name, entity, spelled⟩
  · rw [spelled, List.singleton_append]
    refine unescapeChars_plain ?_ rest
    rintro rfl
    exact plain ampersand
  · rw [spelled, List.cons_append, List.append_assoc, List.singleton_append]
    exact unescapeChars_entity entity rest

theorem unescapeChars_flatMap_charSpelling (characters : List Char) :
    unescapeChars (characters.flatMap charSpelling) = characters := by
  induction characters with
  | nil => rfl
  | cons c rest ih => rw [List.flatMap_cons, unescapeChars_charSpelling, ih]

/-- An escaped text gives back the text. -/
theorem unescape_escape (text : String) : unescape (escape text) = text := by
  rw [unescape, toList_escape, unescapeChars_flatMap_charSpelling, String.ofList_toList]

/-! ## The characters of an escaped text -/

/-- Where an `&` is written for a character, the name of its entity follows. -/
theorem charSpelling_eq_append_ampersand {c : Char} {front back : List Char}
    (written : charSpelling c = front ++ '&' :: back) :
    front = [] ∧ ∃ name, (c, name) ∈ entities ∧ back = name ++ [';'] := by
  have ampersand : '&' ∈ entities.map Prod.fst := by decide
  rcases charSpelling_cases c with ⟨plain, spelled⟩ | ⟨name, entity, spelled⟩
  · have mem : '&' ∈ [c] := by
      rw [← spelled, written]
      exact List.mem_append_right front List.mem_cons_self
    exact absurd (List.mem_singleton.mp mem ▸ ampersand) plain
  · rw [spelled] at written
    cases front with
    | nil => exact ⟨rfl, name, entity, (List.cons.inj written).2.symm⟩
    | cons first others =>
        have mem : '&' ∈ name ++ [';'] := by
          rw [(List.cons.inj written).2]
          exact List.mem_append_right others List.mem_cons_self
        rcases List.mem_append.mp mem with inName | isEnd
        · exact absurd (isAlpha_of_mem_name entity _ inName) (by decide)
        · exact absurd (List.mem_singleton.mp isEnd) (by decide)

/-- Every `&` in an escaped text begins the entity of a character. -/
theorem escape_eq_append_ampersand {text before after : String}
    (split : escape text = before ++ "&" ++ after) :
    ∃ first c name second, (c, name) ∈ entities ∧ text = first ++ String.singleton c ++ second ∧
      before = escape first ∧ after = String.ofList name ++ ";" ++ escape second := by
  have written : String.ofList (text.toList.flatMap charSpelling) =
      before ++ String.singleton '&' ++ after := split
  obtain ⟨first, c, second, front, back, rfl, inPiece, rfl, rfl⟩ :=
    Traversal.exists_char_of_written_eq written
  obtain ⟨rfl, name, entity, rfl⟩ := charSpelling_eq_append_ampersand inPiece
  refine ⟨first, c, name, second, entity, rfl, String.append_empty, ?_⟩
  rw [String.ofList_append]
  rfl

/-! ## The end of an escaped text -/

/-- An escaped text ends where the text ends or a delimiter follows. -/
theorem escape_append_inj_of_head {text text' rest rest' : String}
    (ends : ∀ c ∈ rest.toList.head?, c ∈ delimiters)
    (ends' : ∀ c ∈ rest'.toList.head?, c ∈ delimiters)
    (same : escape text ++ rest = escape text' ++ rest') : text = text' ∧ rest = rest' := by
  have stops {rest : String} (ends : ∀ c ∈ rest.toList.head?, c ∈ delimiters) :
      ∃ stop behind, stop ∈ delimiters ∧ rest.toList ++ ['<'] = stop :: behind := by
    cases characters : rest.toList with
    | nil => exact ⟨'<', [], by decide, rfl⟩
    | cons stop behind =>
        rw [characters] at ends
        exact ⟨stop, behind ++ ['<'], ends stop rfl, rfl⟩
  obtain ⟨stop, behind, delimiter, spelled⟩ := stops ends
  obtain ⟨stop', behind', delimiter', spelled'⟩ := stops ends'
  have ended : (escape text).toList ++ stop :: behind = (escape text').toList ++ stop' :: behind' := by
    rw [← spelled, ← spelled', ← List.append_assoc, ← List.append_assoc, ← String.toList_append,
      ← String.toList_append, same]
  obtain ⟨rfl, -⟩ := escape_append_inj delimiter delimiter' ended
  exact ⟨rfl, String.append_right_inj _ |>.mp same⟩

end SearchRequest.Xml

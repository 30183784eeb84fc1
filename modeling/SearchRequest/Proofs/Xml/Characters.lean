import SearchRequest.Xml.Escape

/-!
# Escaped characters told apart

No character is written like the beginning of another one, and none is written with a
delimiter.  So escaped text ends where the next delimiter stands, and gives back the
characters that were written.
-/

namespace SearchRequest.Xml

/-- A text shows where it first leaves a class of characters. -/
theorem append_inj_of_class {inside : Char → Bool} {front front' rest rest' : List Char}
    {stop stop' : Char} (all : ∀ c ∈ front, inside c = true) (all' : ∀ c ∈ front', inside c = true)
    (stops : inside stop = false) (stops' : inside stop' = false)
    (same : front ++ stop :: rest = front' ++ stop' :: rest') :
    front = front' ∧ stop = stop' ∧ rest = rest' := by
  have taken := congrArg (List.takeWhile inside) same
  rw [List.takeWhile_append_of_pos all, List.takeWhile_append_of_pos all',
    List.takeWhile_cons_of_neg (by simp [stops]), List.takeWhile_cons_of_neg (by simp [stops']),
    List.append_nil, List.append_nil] at taken
  rw [taken] at same
  exact ⟨taken, List.cons.inj (List.append_cancel_left same)⟩

def entities : List (Char × List Char) :=
  [('&', ['a', 'm', 'p']), ('<', ['l', 't']), ('>', ['g', 't']), ('"', ['q', 'u', 'o', 't']),
    ('\'', ['a', 'p', 'o', 's'])]

/-- The characters that end an escaped text. -/
def delimiters : List Char :=
  ['<', '>', '"']

/-- A character is written as itself or by the name of its entity. -/
theorem charSpelling_cases (c : Char) :
    (c ∉ entities.map Prod.fst ∧ charSpelling c = [c]) ∨
      ∃ name, (c, name) ∈ entities ∧ charSpelling c = '&' :: (name ++ [';']) := by
  by_cases special : c ∈ entities.map Prod.fst
  · right
    obtain ⟨⟨c', name⟩, entity, rfl⟩ := List.mem_map.mp special
    refine ⟨name, entity, ?_⟩
    have all : ∀ entity ∈ entities, charSpelling entity.1 = '&' :: (entity.2 ++ [';']) := by
      decide
    exact all _ entity
  · left
    refine ⟨special, ?_⟩
    simp only [entities, List.map_cons, List.map_nil, List.mem_cons, List.not_mem_nil, or_false,
      not_or] at special
    obtain ⟨notAnd, notLess, notGreater, notQuote, notApostrophe⟩ := special
    rw [charSpelling, if_neg notAnd, if_neg notLess, if_neg notGreater, if_neg notQuote,
      if_neg notApostrophe]

theorem entity_eq_of_name_eq {c c' : Char} {name : List Char} (entity : (c, name) ∈ entities)
    (entity' : (c', name) ∈ entities) : c = c' := by
  have all : ∀ entity ∈ entities, ∀ entity' ∈ entities, entity.2 = entity'.2 →
      entity.1 = entity'.1 := by
    decide
  exact all _ entity _ entity' rfl

theorem isAlpha_of_mem_name {c : Char} {name : List Char} (entity : (c, name) ∈ entities) :
    ∀ letter ∈ name, letter.isAlpha = true := by
  have all : ∀ entity ∈ entities, entity.2.all Char.isAlpha = true := by decide
  exact List.all_eq_true.mp (all _ entity)

/-- A character is written without any character that needs an entity, except for the `&`. -/
theorem of_mem_charSpelling {c written : Char} (mem : written ∈ charSpelling c) :
    written = '&' ∨ written ∉ entities.map Prod.fst := by
  have noLetter : ∀ entity ∈ entities, entity.1.isAlpha = false := by decide
  rcases charSpelling_cases c with ⟨plain, spelled⟩ | ⟨name, entity, spelled⟩
  · rw [spelled, List.mem_singleton] at mem
    exact .inr (mem ▸ plain)
  · rw [spelled, List.mem_cons, List.mem_append, List.mem_singleton] at mem
    rcases mem with rfl | letter | rfl
    · exact .inl rfl
    · right
      intro special
      obtain ⟨other, inEntities, rfl⟩ := List.mem_map.mp special
      have isLetter := isAlpha_of_mem_name entity other.1 letter
      rw [noLetter other inEntities] at isLetter
      cases isLetter
    · exact .inr (by decide)

/-- An escaped text is written without the characters that need an entity, except for the `&`. -/
theorem of_mem_escape {text : String} {c : Char} (mem : c ∈ (escape text).toList) :
    c = '&' ∨ c ∉ entities.map Prod.fst := by
  rw [toList_escape] at mem
  obtain ⟨own, -, written⟩ := List.mem_flatMap.mp mem
  exact of_mem_charSpelling written

/-- No character is written like the beginning of another one. -/
theorem charSpelling_append_inj {c c' : Char} {rest rest' : List Char}
    (same : charSpelling c ++ rest = charSpelling c' ++ rest') : c = c' ∧ rest = rest' := by
  have ampersand : '&' ∈ entities.map Prod.fst := by decide
  rcases charSpelling_cases c with ⟨plain, spelled⟩ | ⟨name, entity, spelled⟩ <;>
    rcases charSpelling_cases c' with ⟨plain', spelled'⟩ | ⟨name', entity', spelled'⟩ <;>
      rw [spelled, spelled'] at same
  · exact List.cons.inj same
  · obtain ⟨rfl, -⟩ := List.cons.inj same
    exact absurd ampersand plain
  · obtain ⟨rfl, -⟩ := List.cons.inj same
    exact absurd ampersand plain'
  · have named : name ++ ';' :: rest = name' ++ ';' :: rest' := by simpa using same
    obtain ⟨rfl, -, sameRest⟩ := append_inj_of_class (isAlpha_of_mem_name entity)
      (isAlpha_of_mem_name entity') rfl rfl named
    exact ⟨entity_eq_of_name_eq entity entity', sameRest⟩

/-- What a character is written as does not begin with a delimiter. -/
theorem charSpelling_begins (c : Char) :
    ∃ first rest, charSpelling c = first :: rest ∧ first ∉ delimiters := by
  rcases charSpelling_cases c with ⟨plain, spelled⟩ | ⟨name, entity, spelled⟩
  · refine ⟨c, [], spelled, ?_⟩
    intro delimiter
    have special : delimiters ⊆ entities.map Prod.fst := by decide
    exact plain (special delimiter)
  · exact ⟨'&', name ++ [';'], spelled, by decide⟩

/-- Escaped characters end where the next delimiter stands. -/
theorem flatMap_charSpelling_append_inj {characters characters' : List Char} {stop stop' : Char}
    {rest rest' : List Char} (stops : stop ∈ delimiters) (stops' : stop' ∈ delimiters)
    (same : characters.flatMap charSpelling ++ stop :: rest =
      characters'.flatMap charSpelling ++ stop' :: rest') :
    characters = characters' ∧ stop = stop' ∧ rest = rest' := by
  induction characters generalizing characters' with
  | nil =>
      cases characters' with
      | nil => exact ⟨rfl, List.cons.inj same⟩
      | cons c' further' =>
          obtain ⟨first, others, spelled, noStop⟩ := charSpelling_begins c'
          rw [List.flatMap_cons, spelled] at same
          obtain ⟨rfl, -⟩ := List.cons.inj same
          exact absurd stops noStop
  | cons c further ih =>
      cases characters' with
      | nil =>
          obtain ⟨first, others, spelled, noStop⟩ := charSpelling_begins c
          rw [List.flatMap_cons, spelled] at same
          obtain ⟨rfl, -⟩ := List.cons.inj same
          exact absurd stops' noStop
      | cons c' further' =>
          rw [List.flatMap_cons, List.flatMap_cons, List.append_assoc, List.append_assoc] at same
          obtain ⟨rfl, sameRest⟩ := charSpelling_append_inj same
          obtain ⟨rfl, sameStop⟩ := ih sameRest
          exact ⟨rfl, sameStop⟩

/-- An escaped text ends where the next delimiter stands. -/
theorem escape_append_inj {text text' : String} {stop stop' : Char} {rest rest' : List Char}
    (stops : stop ∈ delimiters) (stops' : stop' ∈ delimiters)
    (same : (escape text).toList ++ stop :: rest = (escape text').toList ++ stop' :: rest') :
    text = text' ∧ stop = stop' ∧ rest = rest' := by
  rw [toList_escape, toList_escape] at same
  obtain ⟨sameText, sameRest⟩ := flatMap_charSpelling_append_inj stops stops' same
  exact ⟨String.toList_inj.mp sameText, sameRest⟩

end SearchRequest.Xml

import SearchRequest.Proofs.Xml.Characters
import SearchRequest.Xml.Draft

/-!
# XML texts that cannot be confused

The text of a draft shows where it ends, and gives back the whole draft, as long as a tag
decides whether its elements hold characters or other elements.  Without this, an element
that holds the empty text is written like one that holds nothing.
-/

namespace SearchRequest.Xml

def isNameChar (c : Char) : Bool :=
  c.isAlpha || c = '-'

/-- The text can stand as the name of an element or an attribute. -/
def IsName (text : String) : Prop :=
  text.toList ≠ [] ∧ text.toList.all isNameChar = true

instance (text : String) : Decidable (IsName text) :=
  inferInstanceAs (Decidable (_ ∧ _))

/-- A name ends where the next character of the markup stands. -/
theorem IsName.append_inj {name name' : String} (isName : IsName name) (isName' : IsName name')
    {stop stop' : Char} {rest rest' : List Char} (stops : isNameChar stop = false)
    (stops' : isNameChar stop' = false)
    (same : name.toList ++ stop :: rest = name'.toList ++ stop' :: rest') :
    name = name' ∧ stop :: rest = stop' :: rest' := by
  obtain ⟨sameName, sameStop, sameRest⟩ := append_inj_of_class
    (List.all_eq_true.mp isName.2) (List.all_eq_true.mp isName'.2) stops stops' same
  exact ⟨String.toList_inj.mp sameName, List.cons_eq_cons.mpr ⟨sameStop, sameRest⟩⟩

namespace Draft

/-! ## Start tags -/

theorem renderAttributes_cons_append (name value : String) (others : List (String × String))
    (rest : List Char) :
    (renderAttributes ((name, value) :: others)).toList ++ rest =
      ' ' :: (name.toList ++ '=' :: '"' :: ((escape value).toList ++
        '"' :: ((renderAttributes others).toList ++ rest))) := by
  simp [renderAttributes]

/-- No name goes on into the attributes behind it. -/
theorem renderAttributes_append_begins (attributes : List (String × String)) {stop : Char}
    (rest : List Char) (stops : isNameChar stop = false) :
    ∃ stop' rest', (renderAttributes attributes).toList ++ stop :: rest = stop' :: rest' ∧
      isNameChar stop' = false := by
  cases attributes with
  | nil => exact ⟨stop, rest, rfl, stops⟩
  | cons entry others =>
      obtain ⟨name, value⟩ := entry
      exact ⟨' ', _, renderAttributes_cons_append name value others _, rfl⟩

/-- Attributes end where no further blank stands. -/
theorem renderAttributes_append_inj {attributes attributes' : List (String × String)}
    (named : ∀ entry ∈ attributes, IsName entry.1)
    (named' : ∀ entry ∈ attributes', IsName entry.1) {stop stop' : Char}
    {rest rest' : List Char} (stops : stop ≠ ' ') (stops' : stop' ≠ ' ')
    (same : (renderAttributes attributes).toList ++ stop :: rest =
      (renderAttributes attributes').toList ++ stop' :: rest') :
    attributes = attributes' ∧ stop :: rest = stop' :: rest' := by
  induction attributes generalizing attributes' with
  | nil =>
      cases attributes' with
      | nil => exact ⟨rfl, same⟩
      | cons entry' others' =>
          obtain ⟨name', value'⟩ := entry'
          rw [renderAttributes_cons_append] at same
          exact absurd (List.cons.inj same).1 stops
  | cons entry others ih =>
      obtain ⟨name, value⟩ := entry
      cases attributes' with
      | nil =>
          rw [renderAttributes_cons_append] at same
          exact absurd (List.cons.inj same).1.symm stops'
      | cons entry' others' =>
          obtain ⟨name', value'⟩ := entry'
          rw [List.forall_mem_cons] at named named'
          rw [renderAttributes_cons_append, renderAttributes_cons_append] at same
          obtain ⟨rfl, sameValue⟩ := named.1.append_inj named'.1 rfl rfl
            (List.cons.inj same).2
          obtain ⟨rfl, -, sameOthers⟩ := escape_append_inj (by decide) (by decide)
            (List.cons.inj (List.cons.inj sameValue).2).2
          obtain ⟨rfl, sameRest⟩ := ih named.2 named'.2 sameOthers
          exact ⟨rfl, sameRest⟩

def startTag (tag : String) (attributes : List (String × String)) : List Char :=
  '<' :: (tag.toList ++ (renderAttributes attributes).toList)

structure Named (tag : String) (attributes : List (String × String)) : Prop where
  tag : IsName tag
  attributes : ∀ entry ∈ attributes, IsName entry.1

/-- A start tag gives back the names and values in it. -/
theorem Named.startTag_append_inj {tag tag' : String}
    {attributes attributes' : List (String × String)}
    (named : Named tag attributes) (named' : Named tag' attributes') {stop stop' : Char}
    {rest rest' : List Char} (closes : stop = '>' ∨ stop = '/')
    (closes' : stop' = '>' ∨ stop' = '/')
    (same : startTag tag attributes ++ stop :: rest =
      startTag tag' attributes' ++ stop' :: rest') :
    tag = tag' ∧ attributes = attributes' ∧ stop :: rest = stop' :: rest' := by
  have ends {c : Char} (closes : c = '>' ∨ c = '/') : isNameChar c = false ∧ c ≠ ' ' := by
    rcases closes with rfl | rfl <;> decide
  obtain ⟨first, others, begins, stops⟩ :=
    renderAttributes_append_begins attributes rest (ends closes).1
  obtain ⟨first', others', begins', stops'⟩ :=
    renderAttributes_append_begins attributes' rest' (ends closes').1
  rw [startTag, startTag, List.cons_append, List.cons_append, List.append_assoc,
    List.append_assoc, begins, begins'] at same
  obtain ⟨rfl, sameBehind⟩ := named.tag.append_inj named'.tag stops stops' (List.cons.inj same).2
  rw [← begins, ← begins'] at sameBehind
  obtain ⟨rfl, sameRest⟩ := renderAttributes_append_inj named.attributes named'.attributes
    (ends closes).2 (ends closes').2 sameBehind
  exact ⟨rfl, rfl, sameRest⟩

/-! ## Elements -/

theorem render_element_append (tag : String) (attributes : List (String × String))
    (children : List Draft) (rest : List Char) :
    (render (.element tag attributes children)).toList ++ rest =
      startTag tag attributes ++ '>' :: ((renderAll children).toList ++
        '<' :: '/' :: (tag.toList ++ '>' :: rest)) := by
  simp [render, startTag]

theorem render_hollow_append (tag : String) (attributes : List (String × String))
    (rest : List Char) :
    (render (.hollow tag attributes)).toList ++ rest =
      startTag tag attributes ++ '/' :: '>' :: rest := by
  simp [render, startTag]

/-- Two elements that are written alike begin with the same start tag. -/
theorem Named.element_append_inj {tag tag' : String}
    {attributes attributes' : List (String × String)} {children children' : List Draft}
    (named : Named tag attributes) (named' : Named tag' attributes') {rest rest' : List Char}
    (same : (render (.element tag attributes children)).toList ++ rest =
      (render (.element tag' attributes' children')).toList ++ rest') :
    tag = tag' ∧ attributes = attributes' ∧
      (renderAll children).toList ++ '<' :: '/' :: (tag.toList ++ '>' :: rest) =
        (renderAll children').toList ++ '<' :: '/' :: (tag.toList ++ '>' :: rest') := by
  rw [render_element_append, render_element_append] at same
  obtain ⟨rfl, rfl, inner⟩ := named.startTag_append_inj named' (.inl rfl) (.inl rfl) same
  exact ⟨rfl, rfl, (List.cons.inj inner).2⟩

/-- An element with an end tag is written unlike one without. -/
theorem Named.element_append_ne_hollow_append {tag tag' : String}
    {attributes attributes' : List (String × String)} (children : List Draft)
    (named : Named tag attributes) (named' : Named tag' attributes') (rest rest' : List Char) :
    (render (.element tag attributes children)).toList ++ rest ≠
      (render (.hollow tag' attributes')).toList ++ rest' := by
  intro same
  rw [render_element_append, render_hollow_append] at same
  obtain ⟨-, -, inner⟩ := named.startTag_append_inj named' (.inl rfl) (.inr rfl) same
  cases inner

/--
A draft of elements with names for tags.  An element with one of the textual tags holds
characters, any other one holds elements.
-/
inductive Regular (textual : String → Prop) : Draft → Prop where
  | leaf {tag : String} {attributes : List (String × String)} (content : String)
      (named : Named tag attributes) (holdsText : textual tag) :
      Regular textual (.element tag attributes [.text content])
  | branch {tag : String} {attributes : List (String × String)} {children : List Draft}
      (named : Named tag attributes) (holdsElements : ¬textual tag)
      (each : ∀ child ∈ children, Regular textual child) :
      Regular textual (.element tag attributes children)
  | hollow {tag : String} {attributes : List (String × String)}
      (named : Named tag attributes) : Regular textual (.hollow tag attributes)

variable {textual : String → Prop}

theorem Regular.render_begins_with_startTag {draft : Draft} (regular : Regular textual draft) :
    ∃ tag attributes rest, Named tag attributes ∧
      draft.render.toList = startTag tag attributes ++ rest := by
  rw [← List.append_nil draft.render.toList]
  cases regular with
  | leaf content named holdsText => exact ⟨_, _, _, named, render_element_append _ _ _ []⟩
  | branch named holdsElements each => exact ⟨_, _, _, named, render_element_append _ _ _ []⟩
  | hollow named => exact ⟨_, _, _, named, render_hollow_append _ _ []⟩

/-- No element is written like the beginning of an end tag. -/
theorem Regular.render_begins {draft : Draft} (regular : Regular textual draft) :
    ∃ first rest, draft.render.toList = '<' :: first :: rest ∧ first ≠ '/' := by
  obtain ⟨tag, attributes, rest, named, begins⟩ := regular.render_begins_with_startTag
  obtain ⟨first, others, letters⟩ := List.exists_cons_of_ne_nil named.tag.1
  rw [startTag, letters] at begins
  refine ⟨first, _, begins, ?_⟩
  rintro rfl
  have isName := List.all_eq_true.mp named.tag.2 '/' (by simp [letters])
  exact absurd isName (by decide)

/-- The children of an element end where its end tag stands. -/
theorem renderAll_append_inj {children children' : List Draft}
    (regular : ∀ child ∈ children, Regular textual child)
    (regular' : ∀ child' ∈ children', Regular textual child')
    (decides : ∀ child ∈ children, ∀ child', Regular textual child' → ∀ rest rest',
      child.render.toList ++ rest = child'.render.toList ++ rest' → child = child' ∧ rest = rest')
    {rest rest' : List Char}
    (same : (renderAll children).toList ++ '<' :: '/' :: rest =
      (renderAll children').toList ++ '<' :: '/' :: rest') :
    children = children' ∧ rest = rest' := by
  have cons_append (child : Draft) (others : List Draft) (tail : List Char) :
      (renderAll (child :: others)).toList ++ tail =
        child.render.toList ++ ((renderAll others).toList ++ tail) := by
    rw [renderAll, String.toList_append, List.append_assoc]
  induction children generalizing children' with
  | nil =>
      cases children' with
      | nil => exact ⟨rfl, (List.cons.inj (List.cons.inj same).2).2⟩
      | cons child' others' =>
          obtain ⟨first, tail, begins, notClose⟩ := (regular' child' (by simp)).render_begins
          rw [cons_append, begins] at same
          exact absurd (List.cons.inj (List.cons.inj same).2).1.symm notClose
  | cons child others ih =>
      cases children' with
      | nil =>
          obtain ⟨first, tail, begins, notClose⟩ := (regular child (by simp)).render_begins
          rw [cons_append, begins] at same
          exact absurd (List.cons.inj (List.cons.inj same).2).1 notClose
      | cons child' others' =>
          rw [List.forall_mem_cons] at regular regular' decides
          rw [cons_append, cons_append] at same
          obtain ⟨rfl, sameOthers⟩ := decides.1 child' regular'.1 _ _ same
          obtain ⟨rfl, sameRest⟩ := ih regular.2 regular'.2 decides.2 sameOthers
          exact ⟨rfl, sameRest⟩

theorem leaf_inj {tag tag' content content' : String} :
    leaf tag content = leaf tag' content' ↔ tag = tag' ∧ content = content' := by
  simp [leaf]

/-- The text of a regular draft shows where it ends and of which draft it is. -/
theorem Regular.render_append_inj {draft draft' : Draft} (regular : Regular textual draft)
    (regular' : Regular textual draft') {rest rest' : List Char}
    (same : draft.render.toList ++ rest = draft'.render.toList ++ rest') :
    draft = draft' ∧ rest = rest' := by
  have behindEndTag (tag : String) {rest rest' : List Char}
      (same : tag.toList ++ '>' :: rest = tag.toList ++ '>' :: rest') : rest = rest' :=
    (List.cons.inj (List.append_cancel_left same)).2
  -- The end of the start tag tells hollow elements apart, and its tag a leaf from a branch.
  induction regular generalizing draft' rest rest' with
  | leaf content named holdsText =>
      cases regular' with
      | leaf content' named' holdsText' =>
          obtain ⟨rfl, rfl, inner⟩ := named.element_append_inj named' same
          have written (content : String) : (renderAll [.text content]).toList =
              (escape content).toList := by
            simp [renderAll, render]
          rw [written, written] at inner
          obtain ⟨rfl, -, endTag⟩ := escape_append_inj (by decide) (by decide) inner
          exact ⟨rfl, behindEndTag _ (List.cons.inj endTag).2⟩
      | branch named' holdsElements' each' =>
          obtain ⟨rfl, -, -⟩ := named.element_append_inj named' same
          exact absurd holdsText holdsElements'
      | hollow named' => exact absurd same (named.element_append_ne_hollow_append _ named' _ _)
  | branch named holdsElements each ih =>
      cases regular' with
      | leaf content' named' holdsText' =>
          obtain ⟨rfl, -, -⟩ := named.element_append_inj named' same
          exact absurd holdsText' holdsElements
      | branch named' holdsElements' each' =>
          obtain ⟨rfl, rfl, inner⟩ := named.element_append_inj named' same
          obtain ⟨rfl, endTag⟩ := renderAll_append_inj each each'
            (fun child mem child' regular' rest rest' => ih child mem regular') inner
          exact ⟨rfl, behindEndTag _ endTag⟩
      | hollow named' => exact absurd same (named.element_append_ne_hollow_append _ named' _ _)
  | hollow named =>
      cases regular' with
      | leaf content' named' holdsText' =>
          exact absurd same.symm (named'.element_append_ne_hollow_append _ named _ _)
      | branch named' holdsElements' each' =>
          exact absurd same.symm (named'.element_append_ne_hollow_append _ named _ _)
      | hollow named' =>
          rw [render_hollow_append, render_hollow_append] at same
          obtain ⟨rfl, rfl, inner⟩ := named.startTag_append_inj named' (.inr rfl) (.inr rfl) same
          exact ⟨rfl, (List.cons.inj (List.cons.inj inner).2).2⟩

end Draft

end SearchRequest.Xml

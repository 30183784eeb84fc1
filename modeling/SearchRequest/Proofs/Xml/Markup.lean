import Mathlib.Data.List.Forall2
import SearchRequest.Proofs.Xml.Characters
import SearchRequest.Xml.Draft

/-!
# The markup of XML texts

The angle brackets and the quotes of a text are its markup.  Escaped characters and values bring
none with them, so the markup of a draft is decided by the tags and the names of attributes in it,
and by the texts that it takes over as they stand.
-/

namespace SearchRequest.Xml

/-- The angle brackets and quotes of a text in their order. -/
def markup (text : String) : List Char :=
  text.toList.filter (· ∈ delimiters)

@[simp]
theorem markup_append (first second : String) :
    markup (first ++ second) = markup first ++ markup second := by
  rw [markup, String.toList_append, List.filter_append]
  rfl

/-- An escaped text brings no markup with it. -/
@[simp]
theorem markup_escape (text : String) : markup (escape text) = [] := by
  have special : delimiters ⊆ entities.map Prod.fst := by decide
  rw [markup, List.filter_eq_nil_iff]
  intro written mem delimiter
  have isDelimiter : written ∈ delimiters := of_decide_eq_true delimiter
  rcases of_mem_escape mem with rfl | plain
  · exact absurd isDelimiter (by decide)
  · exact plain (special isDelimiter)

namespace Draft

def SameMarkup (draft draft' : Draft) : Prop :=
  markup draft.render = markup draft'.render

variable {tag : String} {attributes attributes' : List (String × String)}
  {children children' : List Draft}

/-- The values of attributes may be exchanged. -/
theorem markup_renderAttributes (sameNames : attributes.map Prod.fst = attributes'.map Prod.fst) :
    markup (renderAttributes attributes) = markup (renderAttributes attributes') := by
  induction attributes generalizing attributes' with
  | nil => rw [List.map_eq_nil_iff.mp sameNames.symm]
  | cons entry others ih =>
      obtain ⟨entry', others', rfl, sameName, sameOthers⟩ := List.map_eq_cons_iff.mp sameNames.symm
      simp only [renderAttributes, markup_append, markup_escape, sameName, ih sameOthers.symm]

theorem markup_renderAll (each : List.Forall₂ SameMarkup children children') :
    markup (renderAll children) = markup (renderAll children') := by
  induction each with
  | nil => rfl
  | cons same _ ih => rw [renderAll, renderAll, markup_append, markup_append, same, ih]

theorem SameMarkup.element (tag : String)
    (sameNames : attributes.map Prod.fst = attributes'.map Prod.fst)
    (each : List.Forall₂ SameMarkup children children') :
    SameMarkup (.element tag attributes children) (.element tag attributes' children') := by
  simp only [SameMarkup, render, markup_append, markup_renderAttributes sameNames,
    markup_renderAll each]

theorem SameMarkup.hollow (tag : String)
    (sameNames : attributes.map Prod.fst = attributes'.map Prod.fst) :
    SameMarkup (.hollow tag attributes) (.hollow tag attributes') := by
  simp only [SameMarkup, render, markup_append, markup_renderAttributes sameNames]

theorem SameMarkup.text (content content' : String) :
    SameMarkup (.text content) (.text content') := by
  rw [SameMarkup, render, render, markup_escape, markup_escape]

theorem SameMarkup.leaf (tag content content' : String) :
    SameMarkup (.leaf tag content) (.leaf tag content') :=
  .element tag rfl (.cons (.text content content') .nil)

end Draft

end SearchRequest.Xml

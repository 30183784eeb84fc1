import SearchRequest.Json.Reader
import SearchRequest.Proofs.Json.Literal

/-!
# Quoted texts read back

The reader takes a literal up to its closing quote, delivers the content and goes on behind the
quote.
-/

namespace SearchRequest.Json.Reader

theorem run?_cons (reader : Reader) (c : Char) (rest : List Char) :
    reader.run? (c :: rest) = (reader.step? c).bind (·.run? rest) :=
  rfl

theorem run?_singleton (reader : Reader) (c : Char) : reader.run? [c] = reader.step? c :=
  Option.bind_fun_some _

/-- Reading a text is reading its two halves one after the other. -/
theorem run?_append (reader : Reader) (first second : List Char) :
    reader.run? (first ++ second) = (reader.run? first).bind (·.run? second) := by
  simp only [run?, List.foldlM_append]
  rfl

/-- What is read up to a closing quote is delivered, and the reader goes on behind the quote. -/
theorem run?_of_read? {quotation : Quotation} {content : Option String}
    {characters rest : List Char} (read : quotation.read? characters = some (content, rest))
    (purpose : Purpose) (outer : List Frame) :
    (Reader.quoted quotation purpose outer).run? characters =
      (deliverText content outer purpose).run? rest := by
  induction characters generalizing quotation with
  | nil => cases read
  | cons c others ih =>
      obtain ⟨outcome, stepped, read⟩ := Option.bind_eq_some_iff.mp read
      rw [run?_cons, step?, stepped]
      cases outcome with
      | further further => exact ih read
      | closed own =>
          cases read
          rfl

/-- Behind the opening quote, the rest of a quoted text gives back the text. -/
theorem run?_quoted (purpose : Purpose) (outer : List Frame) (text : String) :
    (Reader.quoted .start purpose outer).run? (text.toList.flatMap charSpelling ++ ['"']) =
      some (deliverText (some text) outer purpose) :=
  run?_of_read? ((body_flatMap_charSpelling text.toList).read?_closed []) purpose outer

/-- A literal is read as its content wherever a value may stand, whatever comes behind it. -/
theorem run?_of_isLiteral {content literal : String} (isLiteral : IsLiteral content literal)
    (rest : List Char) (outer : List Frame) :
    (Reader.value outer).run? (literal.toList ++ rest) =
      (deliver (.text (some content)) outer).run? rest := by
  obtain ⟨body, all, spelled⟩ := isLiteral
  have begun : (Reader.value outer).step? '"' = some (.quoted .start .value outer) := rfl
  rw [spelled, List.cons_append, List.append_assoc, run?_cons, begun, Option.bind_some]
  exact run?_of_read? (all.read?_closed rest) .value outer

end SearchRequest.Json.Reader

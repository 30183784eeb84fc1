import SearchRequest.Proofs.Json.Meaning
import SearchRequest.Proofs.Xml.Entities
import SearchRequest.Request

/-!
# Escaped free text

Free text goes into the envelope of a request as it stands, so it is escaped for the encoding of
the request beforehand.  The escaped text can neither end the place that it stands in nor be taken
for another one: between quotes it is a JSON string literal, and as XML character data it is
without markup.  Both give back the text itself.
-/

namespace SearchRequest.Request

/-- A text that stands between two others lies between two boundaries of characters. -/
theorem exists_extract_eq (front middle back : String) :
    ∃ first last : (front ++ middle ++ back).Pos, first ≤ last ∧
      first.offset.byteIdx = front.utf8ByteSize ∧
      last.offset.byteIdx + back.utf8ByteSize = (front ++ middle ++ back).utf8ByteSize ∧
      (front ++ middle ++ back).extract first last = middle := by
  have validFirst : front.rawEndPos.IsValid (front ++ middle ++ back) :=
    String.Pos.Raw.isValid_iff_exists_append.mpr
      ⟨front, middle ++ back, String.append_assoc, rfl⟩
  have validLast : (front ++ middle).rawEndPos.IsValid (front ++ middle ++ back) :=
    String.Pos.Raw.isValid_iff_exists_append.mpr ⟨front ++ middle, back, rfl, rfl⟩
  have size : (front ++ middle).rawEndPos.byteIdx = front.utf8ByteSize + middle.utf8ByteSize :=
    String.utf8ByteSize_append
  refine ⟨⟨_, validFirst⟩, ⟨_, validLast⟩, ?_, rfl, String.utf8ByteSize_append.symm, ?_⟩
  · rw [String.Pos.le_iff, String.Pos.Raw.le_iff, size]
    exact Nat.le_add_right _ _
  · rw [← String.toByteArray_inj, String.toByteArray_extract, String.toByteArray_append]
    refine ByteArray.extract_append_size_left.trans ?_
    rw [String.toByteArray_append]
    exact ByteArray.extract_append_eq_right rfl ByteArray.size_append

/-- A literal is a JSON text, and its value is its content. -/
theorem ofText?_of_isLiteral {content literal : String}
    (isLiteral : Json.IsLiteral content literal) :
    Json.ofText? literal = some (.text content) := by
  have read := Json.Reader.run?_of_isLiteral isLiteral [] []
  rw [List.append_nil] at read
  have spelled : Json.Spelling.ofText? literal = some (.text (some content)) := by
    rw [Json.Spelling.ofText?, read]
    rfl
  exact Json.ofText?_eq_some_iff.mpr ⟨_, spelled, Nat.zero_le _, rfl⟩

/--
Free text that was escaped for JSON is what stands between the quotes of its string literal, from
behind the first byte to before the last one.  The literal is read as the text and nothing else,
whatever comes behind it.  Within the quotes there is no control character, and every quote is the
second half of an escape.  Two texts are escaped together as they are escaped one by one.
-/
theorem escape_json_lossless (text : String) :
    Json.quote text = "\"" ++ escape .json text ++ "\"" ∧
    (∃ first last : (Json.quote text).Pos, first ≤ last ∧ first.offset.byteIdx = 1 ∧
      last.offset.byteIdx + 1 = (Json.quote text).utf8ByteSize ∧
      (Json.quote text).extract first last = escape .json text) ∧
    Json.IsLiteral text (Json.quote text) ∧
    Json.ofText? (Json.quote text) = some (.text text) ∧
    (∀ (rest : String) (outer : List Json.Frame),
      (Json.Reader.value outer).run? (Json.quote text ++ rest).toList =
        (Json.Reader.deliver (.text (some text)) outer).run? rest.toList) ∧
    (∀ content literal rest rest' : String, Json.IsLiteral content literal →
      Json.quote text ++ rest = literal ++ rest' →
        text = content ∧ Json.quote text = literal ∧ rest = rest') ∧
    (∀ c ∈ (escape .json text).toList, 32 ≤ c.toNat) ∧
    (∀ before after : String, escape .json text = before ++ "\"" ++ after →
      ∃ first second, text = first ++ "\"" ++ second ∧
        before = escape .json first ++ "\\" ∧ after = escape .json second) ∧
    ∀ other : String, escape .json (text ++ other) = escape .json text ++ escape .json other := by
  have isLiteral := Json.isLiteral_quote text
  refine ⟨rfl, exists_extract_eq "\"" (Json.escape text) "\"", isLiteral,
    ofText?_of_isLiteral isLiteral, ?_, ?_, Json.printable_escape text,
    fun _ _ => Json.escape_eq_append_quote, Json.escape_append text⟩
  · intro rest outer
    rw [String.toList_append]
    exact Json.Reader.run?_of_isLiteral isLiteral rest.toList outer
  · intro content literal rest rest' isLiteral' same
    rw [← String.toList_inj, String.toList_append, String.toList_append] at same
    obtain ⟨sameContent, sameLiteral, sameRest⟩ := isLiteral.append_inj isLiteral' same
    exact ⟨sameContent, sameLiteral, String.toList_inj.mp sameRest⟩

def quotingText : String :=
  "say \"h\u00e9\"\x01\n\\"

/-- The quotes of the text stay inside its literal, and so does the backslash at its end. -/
theorem escape_json_lossless_quotingText :
    Json.ofText? "\"say \\\"h\u00e9\\\"\\u0001\\n\\\\\"" = some (.text quotingText) ∧
    (∃ first second, quotingText = first ++ "\"" ++ second ∧
      "say \\" = escape .json first ++ "\\" ∧
      "h\u00e9\\\"\\u0001\\n\\\\" = escape .json second) ∧
    Json.quote quotingText = "\"say \\\"h\u00e9\\\"\\u0001\\n\\\\\"" := by
  obtain ⟨-, -, isLiteral, meaning, -, told, -, quotes, -⟩ := escape_json_lossless quotingText
  exact ⟨meaning, quotes "say \\" "h\u00e9\\\"\\u0001\\n\\\\" rfl,
    (told quotingText _ "\"" "\"" isLiteral rfl).2.1⟩

/--
Free text that was escaped for XML is without the characters of markup, and every `&` in it begins
the entity of a character.  One pass over its entities gives back the text.  Two texts are escaped
together as they are escaped one by one, and an escaped text ends where it ends or where a
delimiter follows.
-/
theorem escape_xml_lossless (text : String) :
    (∀ c ∈ (escape .xml text).toList, c ∉ ['<', '>', '"', '\'']) ∧
    (∀ before after : String, escape .xml text = before ++ "&" ++ after →
      ∃ first c name second, (c, name) ∈ Xml.entities ∧
        text = first ++ String.singleton c ++ second ∧ before = escape .xml first ∧
        after = String.ofList name ++ ";" ++ escape .xml second) ∧
    Xml.unescape (escape .xml text) = text ∧
    (∀ other : String, escape .xml (text ++ other) = escape .xml text ++ escape .xml other) ∧
    ∀ other rest rest' : String, (∀ c ∈ rest.toList.head?, c ∈ Xml.delimiters) →
      (∀ c ∈ rest'.toList.head?, c ∈ Xml.delimiters) →
      escape .xml text ++ rest = escape .xml other ++ rest' → text = other ∧ rest = rest' := by
  refine ⟨?_, fun _ _ => Xml.escape_eq_append_ampersand, Xml.unescape_escape text,
    Xml.escape_append text, fun _ _ _ => Xml.escape_append_inj_of_head⟩
  intro c mem markup
  rcases Xml.of_mem_escape mem with rfl | plain
  · exact absurd markup (by decide)
  · exact plain (List.mem_cons_of_mem '&' markup)

def entityText : String :=
  "&amp;lt;b> 'x'"

/-- What looks like an entity is escaped again, and one pass gives it back as it was. -/
theorem escape_xml_lossless_entityText :
    Xml.unescape "&amp;amp;lt;b&gt; &apos;x&apos;" = "&amp;lt;b> 'x'" ∧
    (∃ first c name second, (c, name) ∈ Xml.entities ∧
      entityText = first ++ String.singleton c ++ second ∧ "" = escape .xml first ∧
      "amp;amp;lt;b&gt; &apos;x&apos;" = String.ofList name ++ ";" ++ escape .xml second) ∧
    entityText = "&amp;lt;b> 'x'" := by
  obtain ⟨-, entities, unescaped, -, told⟩ := escape_xml_lossless entityText
  have ends : ∀ c ∈ "</qtext>".toList.head?, c ∈ Xml.delimiters := by
    rintro c ⟨⟩
    exact List.mem_cons_self
  exact ⟨unescaped, entities "" "amp;amp;lt;b&gt; &apos;x&apos;" rfl,
    (told "&amp;lt;b> 'x'" _ _ ends ends rfl).1⟩

end SearchRequest.Request

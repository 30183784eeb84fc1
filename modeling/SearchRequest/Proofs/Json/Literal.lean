import SearchRequest.Json.Escape
import SearchRequest.Json.Quotation
import SearchRequest.Proofs.Traversal

/-!
# String literals

A string literal is a sequence of pieces between two quotes.  Each piece stands for one character:
it is the character itself, or a backslash with a letter, or the four digits of a 16-bit unit, or
two such units for a character that needs both of them.  Whoever reads a literal knows its closing
quote, whatever comes behind it, so no literal is the beginning of another one.
-/

namespace SearchRequest.Json

/-! ## The grammar -/

def shortEscapes : List (Char × Char) :=
  [('"', '"'), ('\\', '\\'), ('/', '/'), ('b', '\x08'), ('f', '\x0c'), ('n', '\n'), ('r', '\r'),
    ('t', '\t')]

def hexDigits : List (Char × Nat) :=
  ['0', '1', '2', '3', '4', '5', '6', '7', '8', '9', 'a', 'b', 'c', 'd', 'e', 'f'].zipIdx ++
    [('A', 10), ('B', 11), ('C', 12), ('D', 13), ('E', 14), ('F', 15)]

/-- Four digits and the 16-bit unit that they are. -/
inductive UnitDigits : List Char → Nat → Prop where
  | of {a b c d : Char} {first second third fourth : Nat} (ofFirst : (a, first) ∈ hexDigits)
      (ofSecond : (b, second) ∈ hexDigits) (ofThird : (c, third) ∈ hexDigits)
      (ofFourth : (d, fourth) ∈ hexDigits) :
      UnitDigits [a, b, c, d] (16 * (16 * (16 * first + second) + third) + fourth)

/-- What may stand between the quotes of a literal for one character. -/
inductive Piece : Char → List Char → Prop where
  | plain {c : Char} (notQuote : c ≠ '"') (notBackslash : c ≠ '\\') (printable : 32 ≤ c.toNat) :
      Piece c [c]
  | short {letter c : Char} (known : (letter, c) ∈ shortEscapes) : Piece c ['\\', letter]
  | unit {digits : List Char} {value : Nat} (spelled : UnitDigits digits value)
      (whole : value < 0xD800 ∨ 0xE000 ≤ value) : Piece (Char.ofNat value) ('\\' :: 'u' :: digits)
  | pair {digits digits' : List Char} {first second : Nat} (spelled : UnitDigits digits first)
      (spelled' : UnitDigits digits' second) (isFirst : 0xD800 ≤ first ∧ first < 0xDC00)
      (isSecond : 0xDC00 ≤ second ∧ second < 0xE000) :
      Piece (Char.ofNat (0x10000 + (first - 0xD800) * 0x400 + (second - 0xDC00)))
        ('\\' :: 'u' :: (digits ++ '\\' :: 'u' :: digits'))

inductive Body : List Char → List Char → Prop where
  | nil : Body [] []
  | cons {c : Char} {content written rest : List Char} (piece : Piece c written)
      (others : Body content rest) : Body (c :: content) (written ++ rest)

/-- The literal is one of the texts that JSON has for a string with the content. -/
def IsLiteral (content literal : String) : Prop :=
  ∃ body, Body content.toList body ∧ literal.toList = '"' :: (body ++ ['"'])

/-! ## Reading a literal -/

namespace Quotation

/-- Read on to the closing quote: the content, and the characters behind the quote. -/
def read? (quotation : Quotation) : List Char → Option (Option String × List Char)
  | [] => none
  | c :: rest =>
      (quotation.step? c).bind fun
        | .further further => further.read? rest
        | .closed content => some (content, rest)

/-- A quoted text of which the given characters have been read, the last one first. -/
def reading (characters : List Char) : Quotation :=
  ⟨some characters, none, .plain⟩

theorem reading_nil : reading [] = start :=
  rfl

theorem escapedChar?_of_mem {letter c : Char} (known : (letter, c) ∈ shortEscapes) :
    letter ≠ 'u' ∧ escapedChar? letter = some c := by
  have all : ∀ entry ∈ shortEscapes, entry.1 ≠ 'u' ∧ escapedChar? entry.1 = some entry.2 := by
    decide
  exact all _ known

theorem hexValue?_of_mem {digit : Char} {value : Nat} (known : (digit, value) ∈ hexDigits) :
    hexValue? digit = some value := by
  have all : ∀ entry ∈ hexDigits, hexValue? entry.1 = some entry.2 := by decide
  exact all _ known

/-- The four digits behind a backslash and a `u` are read as their unit. -/
theorem read?_unit {digits : List Char} {value : Nat} (spelled : UnitDigits digits value)
    (content : Option (List Char)) (half : Option Nat) (rest : List Char) :
    (Quotation.mk content half .plain).read? ('\\' :: 'u' :: (digits ++ rest)) =
      ((Quotation.mk content half .plain).addUnit value).read? rest := by
  cases spelled with
  | of ofFirst ofSecond ofThird ofFourth =>
      simp [read?, step?, hexValue?_of_mem ofFirst, hexValue?_of_mem ofSecond,
        hexValue?_of_mem ofThird, hexValue?_of_mem ofFourth, addUnit]

/-- A unit outside the surrogate range is a character. -/
theorem addUnit_whole {value : Nat} (whole : value < 0xD800 ∨ 0xE000 ≤ value)
    (before : List Char) :
    (reading before).addUnit value = reading (Char.ofNat value :: before) := by
  have notFirst : ¬(0xD800 ≤ value ∧ value < 0xDC00) := by omega
  have notSecond : ¬(0xDC00 ≤ value ∧ value < 0xE000) := by omega
  simp [reading, addUnit, notFirst, notSecond]

/-- A first half waits for its second one. -/
theorem addUnit_first {value : Nat} (isFirst : 0xD800 ≤ value ∧ value < 0xDC00)
    (before : List Char) : (reading before).addUnit value = ⟨some before, some value, .plain⟩ := by
  simp [reading, addUnit, isFirst]

theorem addUnit_second {value : Nat} (isSecond : 0xDC00 ≤ value ∧ value < 0xE000) (first : Nat)
    (before : List Char) :
    (Quotation.mk (some before) (some first) .plain).addUnit value =
      reading (paired first value :: before) := by
  simp [reading, addUnit, isSecond]

end Quotation

open Quotation (reading)

/-- A piece is read as the character that it stands for. -/
theorem Piece.read? {c : Char} {written : List Char} (piece : Piece c written)
    (before rest : List Char) :
    (reading before).read? (written ++ rest) = (reading (c :: before)).read? rest := by
  cases piece with
  | plain notQuote notBackslash printable =>
      have notControl : ¬c.toNat < 32 := Nat.not_lt.mpr printable
      simp [Quotation.read?, Quotation.step?, reading, Quotation.addChar, notQuote, notBackslash,
        notControl]
  | short known =>
      obtain ⟨notUnit, stands⟩ := Quotation.escapedChar?_of_mem known
      simp [Quotation.read?, Quotation.step?, reading, Quotation.addChar, notUnit, stands]
  | unit spelled whole =>
      rw [← Quotation.addUnit_whole whole]
      exact Quotation.read?_unit spelled _ _ rest
  | pair spelled spelled' isFirst isSecond =>
      rw [List.cons_append, List.cons_append, List.append_assoc, reading,
        Quotation.read?_unit spelled, ← reading, Quotation.addUnit_first isFirst]
      refine (Quotation.read?_unit spelled' _ _ rest).trans ?_
      rw [Quotation.addUnit_second isSecond]
      rfl

/-- What stands between the quotes is read piece by piece. -/
theorem Body.read? {content body : List Char} (all : Body content body) (before rest : List Char) :
    (reading before).read? (body ++ rest) = (reading (content.reverse ++ before)).read? rest := by
  induction all generalizing before with
  | nil => rfl
  | cons piece _ ih =>
      rw [List.append_assoc, piece.read?, ih, List.reverse_cons, List.append_assoc,
        List.singleton_append]

/-- Behind the opening quote, the body of a literal and its closing quote are read. -/
theorem Body.read?_closed {content : String} {body : List Char} (all : Body content.toList body)
    (rest : List Char) : Quotation.start.read? (body ++ '"' :: rest) = some (some content, rest) := by
  rw [← Quotation.reading_nil, all.read?]
  simp [Quotation.read?, Quotation.step?, reading, Quotation.finish]

/-- No literal is the beginning of another one, and a literal has one content only. -/
theorem IsLiteral.append_inj {content content' literal literal' : String} {rest rest' : List Char}
    (isLiteral : IsLiteral content literal) (isLiteral' : IsLiteral content' literal')
    (same : literal.toList ++ rest = literal'.toList ++ rest') :
    content = content' ∧ literal = literal' ∧ rest = rest' := by
  obtain ⟨body, all, spelled⟩ := isLiteral
  obtain ⟨body', all', spelled'⟩ := isLiteral'
  have behind : body ++ '"' :: rest = body' ++ '"' :: rest' := by
    simpa [spelled, spelled'] using same
  have read := all.read?_closed rest
  rw [behind, all'.read?_closed rest'] at read
  cases read
  exact ⟨rfl, String.toList_inj.mp (List.append_cancel_right same), rfl⟩

/-! ## The characters of a literal -/

theorem UnitDigits.mem {digits : List Char} {value : Nat} (spelled : UnitDigits digits value) :
    ∀ digit ∈ digits, 32 ≤ digit.toNat ∧ digit ≠ '"' := by
  have all : ∀ entry ∈ hexDigits, 32 ≤ entry.1.toNat ∧ entry.1 ≠ '"' := by decide
  cases spelled with
  | of ofFirst ofSecond ofThird ofFourth =>
      simp only [List.forall_mem_cons]
      exact ⟨all _ ofFirst, all _ ofSecond, all _ ofThird, all _ ofFourth, List.forall_mem_nil _⟩

/-- No piece is written with a character below U+0020. -/
theorem Piece.printable {c : Char} {written : List Char} (piece : Piece c written) :
    ∀ character ∈ written, 32 ≤ character.toNat := by
  have escape : 32 ≤ '\\'.toNat ∧ 32 ≤ 'u'.toNat := by decide
  cases piece with
  | plain _ _ printable =>
      rw [List.forall_mem_singleton]
      exact printable
  | short known =>
      have all : ∀ entry ∈ shortEscapes, 32 ≤ entry.1.toNat := by decide
      simp only [List.forall_mem_cons]
      exact ⟨escape.1, all _ known, List.forall_mem_nil _⟩
  | unit spelled _ =>
      simp only [List.forall_mem_cons]
      exact ⟨escape.1, escape.2, fun digit mem => (spelled.mem digit mem).1⟩
  | pair spelled spelled' _ _ =>
      simp only [List.forall_mem_cons, List.forall_mem_append]
      exact ⟨escape.1, escape.2, fun digit mem => (spelled.mem digit mem).1, escape.1, escape.2,
        fun digit mem => (spelled'.mem digit mem).1⟩

/-- A piece with a quote in it is the escape of the quote. -/
theorem Piece.eq_of_mem_quote {c : Char} {written : List Char} (piece : Piece c written)
    (mem : '"' ∈ written) : c = '"' ∧ written = ['\\', '"'] := by
  have notEscape : '"' ≠ '\\' ∧ '"' ≠ 'u' := by decide
  cases piece with
  | plain notQuote _ _ => exact absurd (List.mem_singleton.mp mem).symm notQuote
  | short known =>
      have all : ∀ entry ∈ shortEscapes, entry.1 = '"' → entry.2 = '"' := by decide
      obtain rfl : '"' = _ := by simpa using mem
      exact ⟨all _ known rfl, rfl⟩
  | unit spelled _ =>
      simp only [List.mem_cons, notEscape.1, notEscape.2, false_or] at mem
      exact absurd rfl (spelled.mem _ mem).2
  | pair spelled spelled' _ _ =>
      simp only [List.mem_cons, List.mem_append, notEscape.1, notEscape.2, false_or] at mem
      rcases mem with inFirst | inSecond
      · exact absurd rfl (spelled.mem _ inFirst).2
      · exact absurd rfl (spelled'.mem _ inSecond).2

theorem Piece.eq_of_quote {c : Char} {front back : List Char}
    (piece : Piece c (front ++ '"' :: back)) : c = '"' ∧ front = ['\\'] ∧ back = [] := by
  obtain ⟨same, written⟩ := piece.eq_of_mem_quote (List.mem_append_right front List.mem_cons_self)
  cases front with
  | nil => exact absurd (List.cons.inj written).1 (by decide)
  | cons first others =>
      obtain ⟨rfl, behind⟩ := List.cons.inj written
      rcases List.append_eq_singleton_iff.mp behind with ⟨rfl, closed⟩ | ⟨-, closed⟩
      · exact ⟨same, rfl, (List.cons.inj closed).2⟩
      · exact absurd closed (List.cons_ne_nil _ _)

/-! ## The literal of a text -/

theorem hexDigit_mem : ∀ value < 16, (hexDigit value, value) ∈ hexDigits := by
  decide

/-- The escape of a character is a piece for it. -/
theorem piece_charSpelling (c : Char) : Piece c (charSpelling c) := by
  have numbered {number : Nat} (same : c.toNat = number) : c = Char.ofNat number := by
    rw [← same, Char.ofNat_toNat]
  unfold charSpelling
  split
  · next same => subst same; exact .short (by decide)
  split
  · next same => subst same; exact .short (by decide)
  split
  · next same => subst same; exact .short (by decide)
  split
  · next same => subst same; exact .short (by decide)
  split
  · next same => subst same; exact .short (by decide)
  split
  · next same => rw [numbered same]; exact .short (by decide)
  split
  · next same => rw [numbered same]; exact .short (by decide)
  split
  · next control =>
      have zero : ('0', 0) ∈ hexDigits := by decide
      have spelled := UnitDigits.of zero zero (hexDigit_mem (c.toNat / 16) (by omega))
        (hexDigit_mem (c.toNat % 16) (by omega))
      have value : c.toNat = 16 * (16 * (16 * 0 + 0) + c.toNat / 16) + c.toNat % 16 := by omega
      have piece := Piece.unit spelled (by omega)
      rw [← numbered value] at piece
      exact piece
  · next notQuote notBackslash _ _ _ _ _ printable =>
      exact .plain notQuote notBackslash (Nat.not_lt.mp printable)

theorem body_flatMap_charSpelling (characters : List Char) :
    Body characters (characters.flatMap charSpelling) := by
  induction characters with
  | nil => exact .nil
  | cons c rest ih => exact .cons (piece_charSpelling c) ih

/-- A quoted text is a literal with the text as its content. -/
theorem isLiteral_quote (text : String) : IsLiteral text (quote text) :=
  ⟨_, body_flatMap_charSpelling text.toList, toList_quote text⟩

theorem printable_escape (text : String) : ∀ c ∈ (escape text).toList, 32 ≤ c.toNat := by
  intro c mem
  rw [toList_escape] at mem
  obtain ⟨own, -, written⟩ := List.mem_flatMap.mp mem
  exact (piece_charSpelling own).printable c written

/-- Every quote in an escaped text belongs to the escape of a quote. -/
theorem escape_eq_append_quote {text before after : String}
    (split : escape text = before ++ "\"" ++ after) :
    ∃ first second, text = first ++ "\"" ++ second ∧ before = escape first ++ "\\" ∧
      after = escape second := by
  have written : String.ofList (text.toList.flatMap charSpelling) =
      before ++ String.singleton '"' ++ after := split
  obtain ⟨first, c, second, front, back, rfl, inPiece, rfl, rfl⟩ :=
    Traversal.exists_char_of_written_eq written
  have piece := piece_charSpelling c
  rw [inPiece] at piece
  obtain ⟨rfl, rfl, rfl⟩ := piece.eq_of_quote
  exact ⟨first, second, rfl, rfl, String.empty_append⟩

end SearchRequest.Json

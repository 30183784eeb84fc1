import SearchRequest.Json.Numeral
import SearchRequest.Json.Quotation
import SearchRequest.Json.Spelling

/-!
# Reading JSON text

The reader takes one character at a time and keeps the brackets that are open as a
stack of frames.  Each of its states is one place in the grammar: where a value must
begin, where a closing bracket may come, or inside a word, a quoted text or a numeral.
A text is read when the reader stands behind one complete value at its end; only blanks
may surround the value.  Nesting is not limited here.
-/

namespace SearchRequest.Json

/-- An open bracket with what has been read inside it, the last part first. -/
inductive Frame where
  | item (before : List Spelling)
  | member (before : List (Option String × Spelling)) (key : Option String)

inductive Purpose where
  | value
  | key (before : List (Option String × Spelling))

inductive Reader where
  /-- A value must begin. -/
  | value (outer : List Frame)
  /-- Behind `[`: a value or the closing bracket. -/
  | firstItem (outer : List Frame)
  /-- Behind an item: a comma or the closing bracket. -/
  | afterItem (before : List Spelling) (outer : List Frame)
  /-- Behind an opening brace: a key or the closing brace. -/
  | firstKey (outer : List Frame)
  /-- Behind the comma of an object: a key. -/
  | nextKey (before : List (Option String × Spelling)) (outer : List Frame)
  /-- Behind a key: the colon. -/
  | colon (before : List (Option String × Spelling)) (key : Option String)
      (outer : List Frame)
  /-- Behind a member: a comma or the closing brace. -/
  | afterMember (before : List (Option String × Spelling)) (outer : List Frame)
  /-- Behind the value of the whole text. -/
  | done (read : Spelling)
  /-- Inside `true`, `false` or `null`, with the letters that must still come. -/
  | word (next : Char) (rest : List Char) (meaning : Spelling) (outer : List Frame)
  | quoted (current : Quotation) (purpose : Purpose) (outer : List Frame)
  | numeral (current : Numeral) (outer : List Frame)

namespace Reader

def isBlank (c : Char) : Bool :=
  c = ' ' || c = '\n' || c = '\r' || c = '\t'

/-- Hand a finished value to the innermost open bracket. -/
def deliver (value : Spelling) : List Frame → Reader
  | [] => .done value
  | .item before :: outer => .afterItem (value :: before) outer
  | .member before key :: outer => .afterMember ((key, value) :: before) outer

def deliverText (content : Option String) (outer : List Frame) : Purpose → Reader
  | .value => deliver (.text content) outer
  | .key before => .colon before content outer

def beginValue? (outer : List Frame) (c : Char) : Option Reader :=
  if c = '"' then some (.quoted .start .value outer)
  else if c = '[' then some (.firstItem outer)
  else if c = '\x7b' then some (.firstKey outer)
  else if c = 't' then some (.word 'r' ['u', 'e'] (.bool true) outer)
  else if c = 'f' then some (.word 'a' ['l', 's', 'e'] (.bool false) outer)
  else if c = 'n' then some (.word 'u' ['l', 'l'] .null outer)
  else (Numeral.begin? c).map (.numeral · outer)

/-- A character that is neither blank nor inside a word, a quoted text or a numeral. -/
def mark? (reader : Reader) (c : Char) : Option Reader :=
  match reader with
  | .value outer => beginValue? outer c
  | .firstItem outer =>
      if c = ']' then some (deliver (.array []) outer)
      else beginValue? (.item [] :: outer) c
  | .afterItem before outer =>
      if c = ',' then some (.value (.item before :: outer))
      else if c = ']' then some (deliver (.array before.reverse) outer)
      else none
  | .firstKey outer =>
      if c = '"' then some (.quoted .start (.key []) outer)
      else if c = '\x7d' then some (deliver (.object []) outer)
      else none
  | .nextKey before outer =>
      if c = '"' then some (.quoted .start (.key before) outer) else none
  | .colon before key outer =>
      if c = ':' then some (.value (.member before key :: outer)) else none
  | .afterMember before outer =>
      if c = ',' then some (.nextKey before outer)
      else if c = '\x7d' then some (deliver (.object before.reverse) outer)
      else none
  | .done _ | .word _ _ _ _ | .quoted _ _ _ | .numeral _ _ => none

def between? (reader : Reader) (c : Char) : Option Reader :=
  if isBlank c then some reader else reader.mark? c

def step? (reader : Reader) (c : Char) : Option Reader :=
  match reader with
  | .word next rest meaning outer =>
      if c = next then
        match rest with
        | [] => some (deliver meaning outer)
        | next :: rest => some (.word next rest meaning outer)
      else none
  | .quoted current purpose outer =>
      (current.step? c).map fun
        | .further further => .quoted further purpose outer
        | .closed content => deliverText content outer purpose
  | .numeral current outer =>
      match current.step? c with
      | some further => some (.numeral further outer)
      | none => current.finish?.bind fun read => (deliver (.number read) outer).between? c
  | reader => reader.between? c

def run? (reader : Reader) (characters : List Char) : Option Reader :=
  characters.foldlM step? reader

/-- The value of the whole text, if the text may end here. -/
def finish? : Reader → Option Spelling
  | .done read => some read
  | .numeral current [] => current.finish?.map .number
  | _ => none

end Reader

def Spelling.ofText? (text : String) : Option Spelling :=
  ((Reader.value []).run? text.toList).bind Reader.finish?

end SearchRequest.Json

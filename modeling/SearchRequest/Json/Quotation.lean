/-!
# Reading a quoted text

A quoted text is read one character at a time from after its opening quote.  Characters
below U+0020 may not stand in it.  An escape with four hexadecimal digits gives a 16-bit
unit; a unit of the surrogate range means a character only as the first or second half
of a pair.  A text with an unpaired half is read to its end, but it has no content.
-/

namespace SearchRequest.Json

inductive QuotationPart where
  | plain
  /-- Just after a backslash. -/
  | escaped
  /-- Inside the hexadecimal digits of a unit: how many come after the next one, and the
  value of those that were read. -/
  | unit (left : Nat) (value : Nat)
  deriving DecidableEq, Repr

structure Quotation where
  /-- The characters read, the last one first; `none` after an unpaired half. -/
  content : Option (List Char)
  /-- A first half that waits for its second one. -/
  half : Option Nat
  part : QuotationPart
  deriving DecidableEq, Repr

namespace Quotation

def start : Quotation :=
  ⟨some [], none, .plain⟩

inductive Outcome where
  | further (quotation : Quotation)
  /-- The closing quote, with the content unless an unpaired half took it away. -/
  | closed (content : Option String)

/-- One more character of content; a waiting half stays unpaired. -/
def addChar (quotation : Quotation) (c : Char) : Quotation :=
  { content := if quotation.half.isSome then none else quotation.content.map (c :: ·)
    half := none
    part := .plain }

/-- The character of a surrogate pair. -/
def paired (first second : Nat) : Char :=
  Char.ofNat (0x10000 + (first - 0xD800) * 0x400 + (second - 0xDC00))

def addUnit (quotation : Quotation) (value : Nat) : Quotation :=
  let isFirst := 0xD800 ≤ value ∧ value < 0xDC00
  let isSecond := 0xDC00 ≤ value ∧ value < 0xE000
  match quotation.half with
  | some first =>
      if isSecond then ⟨quotation.content.map (paired first value :: ·), none, .plain⟩
      else ⟨none, none, .plain⟩
  | none =>
      if isFirst then ⟨quotation.content, some value, .plain⟩
      else if isSecond then ⟨none, none, .plain⟩
      else ⟨quotation.content.map (Char.ofNat value :: ·), none, .plain⟩

/-- The content when the closing quote comes here. -/
def finish (quotation : Quotation) : Option String :=
  if quotation.half.isSome then none
  else quotation.content.map fun characters => String.ofList characters.reverse

def escapedChar? (c : Char) : Option Char :=
  if c = '"' then some '"'
  else if c = '\\' then some '\\'
  else if c = '/' then some '/'
  else if c = 'b' then some (Char.ofNat 8)
  else if c = 'f' then some (Char.ofNat 12)
  else if c = 'n' then some '\n'
  else if c = 'r' then some '\r'
  else if c = 't' then some '\t'
  else none

def hexValue? (c : Char) : Option Nat :=
  if 48 ≤ c.toNat ∧ c.toNat ≤ 57 then some (c.toNat - 48)
  else if 97 ≤ c.toNat ∧ c.toNat ≤ 102 then some (c.toNat - 87)
  else if 65 ≤ c.toNat ∧ c.toNat ≤ 70 then some (c.toNat - 55)
  else none

def step? (quotation : Quotation) (c : Char) : Option Outcome :=
  match quotation.part with
  | .plain =>
      if c = '"' then some (.closed quotation.finish)
      else if c = '\\' then some (.further { quotation with part := .escaped })
      else if c.toNat < 32 then none
      else some (.further (quotation.addChar c))
  | .escaped =>
      if c = 'u' then some (.further { quotation with part := .unit 3 0 })
      else (escapedChar? c).map fun meaning => .further (quotation.addChar meaning)
  | .unit left value =>
      (hexValue? c).map fun digit =>
        match left with
        | 0 => .further (quotation.addUnit (16 * value + digit))
        | left + 1 => .further { quotation with part := .unit left (16 * value + digit) }

end Quotation

end SearchRequest.Json

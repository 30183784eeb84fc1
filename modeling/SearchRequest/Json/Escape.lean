/-!
# Escaped JSON text

A quoted JSON text spells most characters as themselves.  The quote, the
backslash and the characters below U+0020 have an escape: a two-character one
where JSON has a letter for it, and four lower-case hexadecimal digits otherwise.
-/

namespace SearchRequest.Json

def hexDigit (value : Nat) : Char :=
  if value < 10 then Char.ofNat (48 + value) else Char.ofNat (87 + value)

def charSpelling (c : Char) : List Char :=
  if c = '"' then ['\\', '"']
  else if c = '\\' then ['\\', '\\']
  else if c = '\n' then ['\\', 'n']
  else if c = '\r' then ['\\', 'r']
  else if c = '\t' then ['\\', 't']
  else if c.toNat = 8 then ['\\', 'b']
  else if c.toNat = 12 then ['\\', 'f']
  else if c.toNat < 32 then
    ['\\', 'u', '0', '0', hexDigit (c.toNat / 16), hexDigit (c.toNat % 16)]
  else [c]

/-- The text as it stands between the quotes. -/
def escape (text : String) : String :=
  String.ofList (text.toList.flatMap charSpelling)

def quote (text : String) : String :=
  "\"" ++ escape text ++ "\""

@[simp]
theorem toList_escape (text : String) :
    (escape text).toList = text.toList.flatMap charSpelling := by
  simp [escape]

/-- Escaping works character by character, so it distributes over concatenation. -/
theorem escape_append (first second : String) :
    escape (first ++ second) = escape first ++ escape second := by
  simp [escape, String.ofList_append]

@[simp]
theorem toList_quote (text : String) :
    (quote text).toList = '"' :: (text.toList.flatMap charSpelling ++ ['"']) := by
  simp [quote]

end SearchRequest.Json

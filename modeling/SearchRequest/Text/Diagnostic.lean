import SearchRequest.Text.Hidden

/-!
# Quoted text in messages

Messages quote a text so that every character in it can be told: a character without a
visible form of its own is written by its number in hexadecimal.
-/

namespace SearchRequest.Text

def diagnosticSpelling (c : Char) : List Char :=
  if c = '"' then ['\\', '"']
  else if c = '\\' then ['\\', '\\']
  else if c = '\n' then ['\\', 'n']
  else if c = '\r' then ['\\', 'r']
  else if c = '\t' then ['\\', 't']
  else if c.toNat = 0 then ['\\', '0']
  else if isHidden c then
    '\\' :: 'u' :: '\x7b' :: Nat.toDigits 16 c.toNat ++ ['\x7d']
  else [c]

/-- The text in quotes, as messages show it. -/
def diagnostic (text : String) : String :=
  "\"" ++ String.ofList (text.toList.flatMap diagnosticSpelling) ++ "\""

def diagnosticList (texts : List String) : String :=
  "[" ++ String.intercalate ", " (texts.map diagnostic) ++ "]"

end SearchRequest.Text

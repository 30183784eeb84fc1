/-!
# Escaped XML text

Inside elements and attribute values the characters of the markup are written as
entities.
-/

namespace SearchRequest.Xml

def charSpelling (c : Char) : List Char :=
  if c = '&' then ['&', 'a', 'm', 'p', ';']
  else if c = '<' then ['&', 'l', 't', ';']
  else if c = '>' then ['&', 'g', 't', ';']
  else if c = '"' then ['&', 'q', 'u', 'o', 't', ';']
  else if c = '\'' then ['&', 'a', 'p', 'o', 's', ';']
  else [c]

def escape (text : String) : String :=
  String.ofList (text.toList.flatMap charSpelling)

@[simp]
theorem toList_escape (text : String) :
    (escape text).toList = text.toList.flatMap charSpelling := by
  simp [escape]

/-- Escaping works character by character, so it distributes over concatenation. -/
theorem escape_append (first second : String) :
    escape (first ++ second) = escape first ++ escape second := by
  simp [escape, String.ofList_append]

end SearchRequest.Xml

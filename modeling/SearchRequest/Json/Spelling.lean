import SearchRequest.Json.Number

/-!
# JSON texts as they are spelled

The spelling of a JSON text keeps what the text says and nothing more: members stay in
text order, repeated keys included.  A text with an unpaired surrogate and a numeral for
no finite value are spelled correctly but have no content, and it is left to whoever
uses that part whether this matters.
-/

namespace SearchRequest.Json

/-- The structure of a JSON text. -/
inductive Spelling where
  | null
  | bool (value : Bool)
  | number (value : Option Number)
  | text (content : Option String)
  | array (items : List Spelling)
  | object (members : List (Option String × Spelling))
  deriving Inhabited

end SearchRequest.Json

import SearchRequest.Json.Escape

/-!
# JSON texts before they are written

A draft is the tree of a JSON text with its members in the order in which they
are to be written.  It can hold text that is written as it stands, so a caller's
own fragment takes part in a larger text without being read.  Writing is compact:
no blank is added anywhere.
-/

namespace SearchRequest.Json

/-- A JSON text to be written. -/
inductive Draft where
  /-- Text that is written as it stands. -/
  | verbatim (written : String)
  | text (content : String)
  | array (items : List Draft)
  /-- An object with its members in writing order. -/
  | object (members : List (String × Draft))
  deriving Inhabited

namespace Draft

mutual

def render : Draft → String
  | .verbatim written => written
  | .text content => quote content
  | .array items => "[" ++ renderItems "" items ++ "]"
  | .object members => "\x7b" ++ renderMembers "" members ++ "\x7d"

/-- The texts of the items; `lead` goes before the first, a comma before each other one. -/
def renderItems (lead : String) : List Draft → String
  | [] => ""
  | item :: rest => lead ++ item.render ++ renderItems "," rest

def renderMembers (lead : String) : List (String × Draft) → String
  | [] => ""
  | (key, value) :: rest =>
      lead ++ quote key ++ ":" ++ value.render ++ renderMembers "," rest

end

def tagged (tag : String) (body : Draft) : Draft :=
  .object [(tag, body)]

def texts (contents : List String) : Draft :=
  .array (contents.map .text)

def bool (value : Bool) : Draft :=
  .verbatim (if value then "true" else "false")

end Draft

end SearchRequest.Json

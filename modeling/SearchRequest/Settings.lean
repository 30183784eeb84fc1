import SearchRequest.Mode
import SearchRequest.Reference

/-!
# Settings

Settings are what an application declares once about its definitions: the mode, the
default namespace and the references.
-/

namespace SearchRequest

structure Settings where
  mode : Mode := .json
  defaultSpace : String := ""
  references : List Reference := []
  deriving DecidableEq, Repr, Inhabited

def Settings.declare (settings : Settings) (reference : Reference) : Settings :=
  { settings with references := settings.references ++ [reference] }

end SearchRequest

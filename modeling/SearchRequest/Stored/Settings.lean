import SearchRequest.Document
import SearchRequest.Error
import SearchRequest.Settings
import SearchRequest.Stored.Container

/-!
# Stored documents and settings

Both fields of a stored document are needed; of stored settings every field may be
missing.
-/

namespace SearchRequest

open Json (Draft Spelling)

namespace Document

def stored (document : Document) : Draft :=
  .object [("content", .text document.content), ("mime_type", .text document.mediaType)]

def ofStored? : Nat → Spelling → Option Document
  | 0, _ => none
  | _ + 1, spelling =>
      match Stored.fields? ["content", "mime_type"] spelling with
      | some [content, mediaType] => do
          return ⟨← Stored.textField? content, ← Stored.textField? mediaType⟩
      | _ => none

def ofStoredText? (text : String) : Option Document :=
  (Spelling.ofText? text).bind (ofStored? Json.maxOpen)

end Document

def Mode.ofStored? (room : Nat) (spelling : Spelling) : Option Mode :=
  (Stored.name? room spelling).bind Mode.ofKey?

namespace Settings

def stored (settings : Settings) : Draft :=
  .object
    [("mode", .text settings.mode.key),
      ("default_xml_namespace", .text settings.defaultSpace),
      ("references", .array (settings.references.map Reference.stored))]

def referencesOfStored? : Nat → Spelling → Option (List Reference)
  | room + 1, .array items => items.mapM (Reference.ofStored? room)
  | _, _ => none

def ofStored? : Nat → Spelling → Option Settings
  | 0, _ => none
  | room + 1, spelling =>
      match Stored.fields? ["mode", "default_xml_namespace", "references"] spelling with
      | some [mode, defaultSpace, references] => do
          return {
            mode := ← Stored.fieldOr? .json (Mode.ofStored? room) mode
            defaultSpace := ← Stored.fieldOr? "" Stored.text? defaultSpace
            references := ← Stored.fieldOr? [] (referencesOfStored? room) references }
      | _ => none

def ofStoredText (text : String) : Except Error Settings :=
  match (Spelling.ofText? text).bind (ofStored? Json.maxOpen) with
  | some settings => .ok settings
  | none => .error .settingsMalformed

end Settings

end SearchRequest

import SearchRequest.Proofs.Stored.Record
import SearchRequest.Stored.Settings

/-!
# Stored containers, references, documents and settings

All of them are kept, and the forms are never too deep to be read.  In a reference and in the name
of an element, a namespace that was not stated stays apart from the empty one.
-/

namespace SearchRequest

open Json (Draft Spelling bracketDepth)
open Stored (Kept fields? fields?_object fields?_record)

/-! ## Containers and references -/

theorem Container.Kind.ofKey?_key (kind : Kind) : ofKey? kind.key = some kind := by
  cases kind <;> decide

theorem QualifiedName.depth_stored (name : QualifiedName) : name.stored.spelling.depth = 1 := by
  rcases name with ⟨_, _ | space⟩ <;> rfl

theorem QualifiedName.kept (name : QualifiedName) :
    Kept QualifiedName.ofStored? name.stored name := by
  refine .ofFlat name.depth_stored rfl fun room => ?_
  have fields : fields? ["name", "ns"] name.stored.spelling =
      some [some (Draft.text name.name).spelling, (name.space.map .text).map Draft.spelling] :=
    fields?_record rfl (by decide)
  rw [ofStored?, fields]
  simp only [Stored.textField?_text, Stored.optionalTextField?_map]
  rfl

theorem Container.depth_stored (container : Container) :
    container.stored.spelling.depth =
      match container with
      | .property _ => 1
      | .element _ => 2 := by
  cases container with
  | property name => rfl
  | element name => rw [stored, Draft.depth_tagged, name.depth_stored]

theorem Container.kept (container : Container) :
    Kept Container.ofStored? container.stored container := by
  intro room
  cases container with
  | property name => cases room <;> rfl
  | element name =>
      rw [stored, Draft.depth_tagged]
      cases room with
      | zero => rfl
      | succ room =>
          change (QualifiedName.ofStored? room name.stored.spelling).map element = _
          rw [name.kept room, apply_ite (Option.map element)]
          exact if_congr Nat.succ_le_succ_iff.symm rfl rfl

theorem Reference.depth_stored (reference : Reference) :
    reference.stored.spelling.depth = 1 := by
  rcases reference with ⟨_, _, _, _ | space, _ | rangeType⟩ <;> rfl

theorem Reference.kept (reference : Reference) :
    Kept Reference.ofStored? reference.stored reference := by
  refine .ofFlat reference.depth_stored rfl fun room => ?_
  have fields : fields? ["name", "target", "kind", "namespace", "range_type"]
      reference.stored.spelling =
        some [some (Draft.text reference.name).spelling,
          some (Draft.text reference.target).spelling,
          some (Draft.text reference.kind.key).spelling,
          (reference.space.map .text).map Draft.spelling,
          (reference.rangeType.map .text).map Draft.spelling] :=
    fields?_record rfl (by decide)
  rw [ofStored?, fields]
  simp only [Stored.textField?_text, Stored.optionalTextField?_map, Option.bind_some,
    Stored.name?_text]
  simp [Container.Kind.ofKey?_key]

theorem Reference.verbatimFree_stored (reference : Reference) :
    reference.stored.VerbatimFree := by
  rcases reference with ⟨_, _, _, _ | space, _ | rangeType⟩ <;> rfl

/-- Every reference is read back from its stored text. -/
theorem Reference.ofStoredText?_stored (reference : Reference) :
    ofStoredText? reference.stored.render = some reference := by
  have free := reference.verbatimFree_stored
  rw [ofStoredText?, reference.kept.bind_ofText? free, Stored.bracketDepth_render free,
    reference.depth_stored]
  rfl

/-! ## Documents and settings -/

theorem Document.kept (document : Document) :
    Kept Document.ofStored? document.stored document := by
  refine .ofFlat rfl rfl fun room => ?_
  have fields : fields? ["content", "mime_type"] document.stored.spelling =
      some [some (Draft.text document.content).spelling,
        some (Draft.text document.mediaType).spelling] :=
    fields?_object rfl (by decide)
  rw [ofStored?, fields]
  rfl

/-- Every document is read back from its stored text. -/
theorem Document.ofStoredText?_stored (document : Document) :
    ofStoredText? document.stored.render = some document := by
  have free : document.stored.VerbatimFree := rfl
  rw [ofStoredText?, document.kept.bind_ofText? free, Stored.bracketDepth_render free]
  rfl

theorem Mode.ofKey?_key (mode : Mode) : ofKey? mode.key = some mode := by
  cases mode <;> decide

theorem Mode.ofStored?_key (room : Nat) (mode : Mode) :
    ofStored? room (Draft.text mode.key).spelling = some mode := by
  rw [ofStored?, Stored.name?_text]
  exact mode.ofKey?_key

theorem Settings.kept_references (references : List Reference) :
    Kept referencesOfStored? (.array (references.map Reference.stored)) references :=
  .array (fun reference _ => reference.kept) (fun _ => rfl) fun _ _ => rfl

theorem Settings.depth_stored (settings : Settings) :
    settings.stored.spelling.depth =
      (Draft.array (settings.references.map Reference.stored)).spelling.depth + 1 := by
  simp [stored, Draft.spelling, Draft.spellingMembers, Spelling.depth, Spelling.depthMembers]

theorem Settings.kept (settings : Settings) :
    Kept Settings.ofStored? settings.stored settings := by
  intro room
  have fields : fields? ["mode", "default_xml_namespace", "references"] settings.stored.spelling =
      some [some (Draft.text settings.mode.key).spelling,
        some (Draft.text settings.defaultSpace).spelling,
        some (Draft.array (settings.references.map Reference.stored)).spelling] :=
    fields?_object rfl (by decide)
  rw [settings.depth_stored]
  cases room with
  | zero => rfl
  | succ room =>
      have references := kept_references settings.references room
      rw [ofStored?, fields]
      simp only [Stored.fieldOr?, Mode.ofStored?_key, references, Nat.add_le_add_iff_right]
      split <;> rfl

theorem Settings.verbatimFree_stored (settings : Settings) : settings.stored.VerbatimFree := by
  have references : (Draft.array (settings.references.map Reference.stored)).VerbatimFree :=
    Draft.verbatimFree_array.mpr
      (List.forall_mem_map.mpr fun reference _ => reference.verbatimFree_stored)
  refine Draft.verbatimFree_object.mpr ?_
  simp only [List.forall_mem_cons, references]
  exact ⟨rfl, rfl, trivial, nofun⟩

/-- All settings are read back from their stored text. -/
theorem Settings.ofStoredText_stored (settings : Settings) :
    ofStoredText settings.stored.render = .ok settings := by
  have free := settings.verbatimFree_stored
  have fits : bracketDepth settings.stored.render ≤ Json.maxOpen := by
    rw [Stored.bracketDepth_render free, settings.depth_stored, Draft.spelling, Spelling.depth]
    have flat : Spelling.depthItems
        (Draft.spellingItems (settings.references.map Reference.stored)) ≤ 1 := by
      rw [Spelling.depthItems_le_iff, Draft.spellingItems_eq_map, List.map_map,
        List.forall_mem_map]
      exact fun reference _ => reference.depth_stored.le
    rw [Json.maxOpen]
    omega
  rw [ofStoredText, settings.kept.bind_ofText? free, if_pos fits]

end SearchRequest

import SearchRequest.Json.Basic
import SearchRequest.Reference
import SearchRequest.Stored.Record

/-!
# Stored containers and references

The stored forms keep an unstated namespace apart from an empty one: an unstated
namespace is left out, and so is an unstated range type.
-/

namespace SearchRequest

open Json (Draft Spelling)

namespace QualifiedName

def stored (name : QualifiedName) : Draft :=
  Stored.record [("name", some (.text name.name)), ("ns", name.space.map .text)]

def ofStored? : Nat → Spelling → Option QualifiedName
  | 0, _ => none
  | _ + 1, spelling =>
      match Stored.fields? ["name", "ns"] spelling with
      | some [name, space] => do
          return ⟨← Stored.textField? name, ← Stored.optionalTextField? space⟩
      | _ => none

end QualifiedName

namespace Container

def stored : Container → Draft
  | .property name => .tagged "json_property" (.text name)
  | .element name => .tagged "element" name.stored

def ofStored? : Nat → Spelling → Option Container
  | room + 1, .object [(some tag, body)] =>
      if tag = "json_property" then (Stored.text? body).map .property
      else if tag = "element" then (QualifiedName.ofStored? room body).map .element
      else none
  | _, _ => none

end Container

namespace Reference

def stored (reference : Reference) : Draft :=
  Stored.record
    [("name", some (.text reference.name)),
      ("target", some (.text reference.target)),
      ("kind", some (.text reference.kind.key)),
      ("namespace", reference.space.map .text),
      ("range_type", reference.rangeType.map .text)]

def ofStored? : Nat → Spelling → Option Reference
  | 0, _ => none
  | room + 1, spelling =>
      match Stored.fields? ["name", "target", "kind", "namespace", "range_type"]
        spelling with
      | some [name, target, kind, space, rangeType] => do
          return {
            name := ← Stored.textField? name
            target := ← Stored.textField? target
            kind := ← (← kind.bind (Stored.name? room)) |> Container.Kind.ofKey?
            space := ← Stored.optionalTextField? space
            rangeType := ← Stored.optionalTextField? rangeType }
      | _ => none

def ofStoredText? (text : String) : Option Reference :=
  (Spelling.ofText? text).bind (ofStored? Json.maxOpen)

end Reference

end SearchRequest

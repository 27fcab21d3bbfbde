import ComponentAtlas.Codec.Tree
import ComponentAtlas.Composition

/-!
# Views in data files

The values of property paths and of the views on prototypes.
-/

namespace ComponentAtlas

/-- The value of a property path. -/
def PropertyPath.toValue (path : PropertyPath) : Value :=
  .record
    [("root", match path.root with
      | .paths => .text "Paths"
      | .prototype name => .record [("Prototype", .text name)]),
    ("segments", .texts path.segments)]

/-- The value of a part. -/
def Part.toValue (part : Part) : Value :=
  .record [("role", .text part.role), ("referencedPrototype", .text part.prototype)]

/-- The value of an anatomy. -/
def Anatomy.toValue (anatomy : Anatomy) : Value :=
  .record (Value.optionalField "extends" (anatomy.parent.map .text) ++
    [("entries", .list (anatomy.parts.map Part.toValue))])

mutual

/-- The value of an outline. -/
def Outline.toValue : Outline → Value
  | .node role prototype children =>
    .record [("role", .text role), ("prototypeName", .text prototype),
      ("children", .list (outlineValues children))]

/-- The values of outlines. -/
def outlineValues : List Outline → List Value
  | [] => []
  | outline :: rest => outline.toValue :: outlineValues rest

end

mutual

/-- The value of a composition. -/
def Composition.toValue : Composition → Value
  | .position prototype role status parent parts =>
    .record (("prototypeName", .text prototype) ::
      Value.optionalField "role" (role.map .text) ++
      ("status", .text status.name) ::
      Value.optionalField "extends" (parent.map .text) ++
      [("composedOf", .list (compositionValues parts))])

/-- The values of compositions. -/
def compositionValues : List Composition → List Value
  | [] => []
  | part :: rest => part.toValue :: compositionValues rest

end

end ComponentAtlas

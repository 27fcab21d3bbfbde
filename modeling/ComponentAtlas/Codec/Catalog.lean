import ComponentAtlas.Catalog
import ComponentAtlas.Codec.Views

/-!
# Rules and catalogs in data files
-/

namespace ComponentAtlas

/-- The value of a group. -/
def Structure.toValue (group : Structure) : Value :=
  .record [("label", .text group.label), ("icon", .text group.icon), ("color", .text group.color)]

/-- The value of a rule. -/
def StructureRule.toValue (rule : StructureRule) : Value :=
  .record [("match", .text rule.pattern), ("label", .text rule.group.label),
    ("icon", .text rule.group.icon), ("color", .text rule.group.color)]

/-- The value of a listed prototype. -/
def Listing.toValue (listing : Listing) : Value :=
  .record [("node", listing.node.toValue), ("anatomy", listing.anatomy.toValue)]

/-- The value of a styleguide entry. -/
def StyleguideObject.toValue (object : StyleguideObject) : Value :=
  .record ([("title", .text object.title), ("path", .text object.path),
      ("description", .text object.description)] ++
    Value.optionalField "options" (object.options.map Node.toValue) ++
    Value.optionalField "structure" (object.group.map Structure.toValue))

/-- The value of a detail view. -/
def PrototypeDetail.toValue (detail : PrototypeDetail) : Value :=
  .record [("prototypeName", .text detail.name), ("renderedCode", .text detail.source),
    ("parsedCode", .text detail.document), ("ast", detail.node.toValue),
    ("anatomy", detail.anatomy.toValue),
    ("anatomyTree", .list (detail.outline.map Outline.toValue))]

/-- The value of named entries. -/
def Keyed.toValue {α : Type} (toValue : α → Value) (entries : Keyed α) : Value :=
  .record (entries.mapValues toValue)

/-- The document as a rule. -/
def Document.rule? (dialect : Dialect) (document : Document) : Option StructureRule := do
  match ← document.record? dialect ["match", "label", "icon", "color"] with
  | [pattern, label, icon, color] =>
    let pattern ← pattern.required (text? dialect)
    let label ← label.required (text? dialect)
    let icon ← icon.withDefault defaultIcon (text? dialect)
    let color ← color.withDefault defaultColor (text? dialect)
    return { pattern, group := { label, icon, color } }
  | _ => none

/-- The document as a list of rules. -/
def Document.rules? (dialect : Dialect) (document : Document) : Option (List StructureRule) :=
  (document.list? dialect).bind fun items => items.mapM (rule? dialect)

end ComponentAtlas

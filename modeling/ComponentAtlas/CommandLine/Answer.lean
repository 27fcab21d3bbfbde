import ComponentAtlas.CommandLine.Invocation
import ComponentAtlas.CommandLine.Lookup
import ComponentAtlas.Codec.Catalog
import ComponentAtlas.Inspector

/-!
# Answers to queries

What each query of the command line shows: a value for data formats and lines for the text format.
-/

namespace ComponentAtlas

/-- The indentation of a line at a depth. -/
def lineIndent (depth : Nat) : String :=
  String.ofList (List.replicate (2 * depth) ' ')

/-- A role and the prototype that plays it. -/
def roleLine (terminal : Terminal) (role prototype : String) : String :=
  terminal.paint .cyan role ++ " " ++ terminal.paint .dimmed "→" ++ " " ++ prototype

/-- What follows the name of a prototype that extends another one. -/
def parentMark (parent : Option String) : String :=
  match parent with
  | some name => " < " ++ name
  | none => ""

mutual

/-- The lines of an outline, instances within instances further in. -/
def Outline.lines (terminal : Terminal) (depth : Nat) : Outline → List String
  | .node role prototype children =>
    (lineIndent depth ++ roleLine terminal role prototype) ::
      outlineLines terminal (depth + 1) children

/-- The lines of outlines. -/
def outlineLines (terminal : Terminal) (depth : Nat) : List Outline → List String
  | [] => []
  | outline :: rest => outline.lines terminal depth ++ outlineLines terminal depth rest

end

/-- What a line says about a position whose parts are not shown. -/
def Expansion.mark (terminal : Terminal) : Expansion → String
  | .expanded => ""
  | .revisited => terminal.paint .dimmed " (seen)"
  | .depthLimit => terminal.paint .yellow " (depth limit)"
  | .unresolved => terminal.paint .red " (unresolved)"

mutual

/-- The lines of a composition. -/
def Composition.lines (terminal : Terminal) (depth : Nat) : Composition → List String
  | .position prototype role status parent parts =>
    let label := match role with
      | some role => roleLine terminal role prototype
      | none => terminal.paint .bold prototype
    (lineIndent depth ++ label ++ parentMark parent ++ status.mark terminal) ::
      compositionLines terminal (depth + 1) parts

/-- The lines of compositions. -/
def compositionLines (terminal : Terminal) (depth : Nat) : List Composition → List String
  | [] => []
  | part :: rest => part.lines terminal depth ++ compositionLines terminal depth rest

end

/-- The lines of a table. -/
def tableLines (terminal : Terminal) (headers : List String) (rows : List (List String)) :
    List String :=
  Table.lines (terminal.paint .bold) { headers, rows }

/-- The catalog of a package. -/
def catalogReport (terminal : Terminal) (package : String) (objects : Keyed StyleguideObject) :
    Report where
  value := objects.toValue StyleguideObject.toValue
  lines :=
    let rows := objects.map fun (name, object) =>
      [(object.group.map Structure.label).getD "", name, object.title]
    let count := "\n" ++ toString objects.length ++ " styleguide objects in " ++ package
    tableLines terminal ["Structure", "Prototype", "Title"] rows ++ [terminal.paint .dimmed count]

/-- All prototypes of a package. -/
def listingReport (terminal : Terminal) (listed : Keyed Listing) : Report where
  value := listed.toValue Listing.toValue
  lines :=
    let rows := listed.map fun (name, listing) =>
      [name, listing.anatomy.parent.getD "", ", ".intercalate listing.anatomy.prototypes]
    tableLines terminal ["Prototype", "Extends", "Composed of"] rows

/-- A source text under a name. -/
def sourceReport (name source : String) : Report where
  value := .record [(name, .text source)]
  lines := [Text.trimEnd source]

/-- The anatomy of a prototype. -/
def anatomyReport (terminal : Terminal) (detail : PrototypeDetail) : Report where
  value := detail.anatomy.toValue
  lines := (terminal.paint .bold detail.name ++ parentMark detail.anatomy.parent) ::
    outlineLines terminal 1 detail.outline

/-- The composition of a prototype. -/
def compositionReport (terminal : Terminal) (composition : Composition) : Report where
  value := composition.toValue
  lines := composition.lines terminal 0

/-- The detail view of a prototype. -/
def detailReport (terminal : Terminal) (detail : PrototypeDetail) : Report where
  value := detail.toValue
  lines := headerLines terminal detail.name ++ [detail.source] ++
    headerLines terminal "Parsed" ++ [detail.document] ++
    headerLines terminal "Anatomy" ++ outlineLines terminal 0 detail.outline

/-- The groups of names, and which of them are hidden. -/
def classificationReport (terminal : Terminal) (classifier : Classifier) (names : List String) :
    Report where
  value := .list <| names.map fun name =>
    .record [("name", .text name), ("structure", (classifier.classify name).toValue),
      ("hidden", .bool (classifier.isHidden name))]
  lines :=
    let rows := names.map fun name =>
      let group := classifier.classify name
      [name, group.label, group.icon, if classifier.isHidden name then "hidden" else ""]
    tableLines terminal ["Prototype", "Structure", "Icon", ""] rows

/-- The extent of a screen size. -/
def ViewportPreset.extent (preset : ViewportPreset) : String :=
  match preset.width, preset.height with
  | some width, some height => toString width ++ "x" ++ toString height
  | some width, none => toString width ++ "w"
  | none, some height => toString height ++ "h"
  | none, none => "auto"

/-- A preset in a list. -/
def presetLine (label key content : String) : String :=
  itemLine (label ++ " (" ++ key ++ "): " ++ content)

/-- The presets of a site. -/
def presetsReport (terminal : Terminal) (site : Site) : Report where
  value := .record [("viewportPresets", site.viewports.toValue ViewportPreset.toValue),
    ("localePresets", site.locales.toValue LocalePreset.toValue)]
  lines :=
    headerLines terminal "Viewport presets" ++
    site.viewports.map (fun (key, preset) => presetLine preset.label key preset.extent) ++
    headerLines terminal "Locale presets" ++
    site.locales.map fun (key, preset) =>
      presetLine preset.label key (", ".intercalate preset.fallback)

/-- The packages of a source. -/
def packagesReport (packages : List String) : Report where
  value := .texts packages
  lines := packages

/-- What a failing query says about the run. -/
def queried {α : Type} (result : Except Fault α) : Except RunFault α :=
  result.mapError .query

/-- The name under which the paths of a package are shown. -/
def pathsName : String := "paths"

namespace Inspector

/-- What a query about a package shows. -/
def answer (inspector : Inspector) (terminal : Terminal) (package : String) :
    Query → Except RunFault Report
  | .list => return catalogReport terminal package (← queried (inspector.catalog package))
  | .listAll => return listingReport terminal (← queried (inspector.listing package))
  | .render (some .paths) =>
    return sourceReport pathsName (← queried (inspector.renderPaths package))
  | .render (some (.prototype name)) => do
    let source ← (inspector.renderPrototype package name).mapError (.unrendered name)
    return sourceReport name source
  | .render none => throw .nothingToRender
  | .anatomy prototype .own =>
    return anatomyReport terminal (← queried (inspector.detail package prototype))
  | .anatomy prototype (.composition depth) =>
    return compositionReport terminal (← queried (inspector.resolve package prototype depth))
  | .detail prototype =>
    return detailReport terminal (← queried (inspector.detail package prototype))
  | .classify names =>
    return classificationReport terminal (← queried (inspector.classifier package)) names
  | .presets => return presetsReport terminal (inspector.settings.siteOf package)

end Inspector

end ComponentAtlas

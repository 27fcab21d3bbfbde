import ComponentAtlas.Codec.Catalog
import ComponentAtlas.Settings

/-!
# Settings in data files
-/

namespace ComponentAtlas

/-- The value of a natural number. -/
def natValue (n : Nat) : Value := .integer n

/-- The value of a screen size. -/
def ViewportPreset.toValue (preset : ViewportPreset) : Value :=
  .record (("label", .text preset.label) ::
    Value.optionalField "width" (preset.width.map natValue) ++
    Value.optionalField "height" (preset.height.map natValue))

/-- The value of a locale. -/
def LocalePreset.toValue (preset : LocalePreset) : Value :=
  .record (("label", .text preset.label) ::
    if preset.fallback.isEmpty then [] else [("fallback", .texts preset.fallback)])

/-- The value of rules. -/
def rulesValue (rules : List StructureRule) : Value :=
  .list (rules.map StructureRule.toValue)

/-- The value of the display of a site; a part that is not given is null. -/
def DisplayOverride.toValue (display : DisplayOverride) : Value :=
  .record [("structure", (display.rules.map rulesValue).getD .null),
    ("viewportPresets",
      (display.viewports.map (Keyed.toValue ViewportPreset.toValue)).getD .null),
    ("localePresets", (display.locales.map (Keyed.toValue LocalePreset.toValue)).getD .null)]

/-- The value of a site. -/
def Site.toValue (site : Site) : Value :=
  let display : DisplayOverride :=
    { rules := some site.rules, viewports := some site.viewports, locales := some site.locales }
  .record [("ui", display.toValue), ("hiddenPrototypeNamePatterns", .texts site.hidePatterns)]

/-- The value of an override. -/
def SiteOverride.toValue (change : SiteOverride) : Value :=
  .record [("ui", (change.display.map DisplayOverride.toValue).getD .null),
    ("hiddenPrototypeNamePatterns", (change.hidePatterns.map Value.texts).getD .null)]

/-- The value of settings. -/
def Settings.toValue (settings : Settings) : Value :=
  .record [("defaultPackage", .optionalText settings.defaultPackage),
    ("fragmentsPath", .optionalText settings.fragmentsPath),
    ("mergePolicy", .text settings.mergePolicy.name),
    ("maxDepth", natValue settings.maxDepth),
    ("render", .record [("indent", .text settings.indent)]),
    ("site", settings.site.toValue),
    ("packages", settings.packages.toValue SiteOverride.toValue)]

namespace Document

variable (dialect : Dialect)

/-- The largest number of 32 bits. -/
def word32 : Nat := twoTo 32 - 1

/-- The largest number of 64 bits. -/
def word64 : Nat := twoTo 64 - 1

/-- The document as a list of texts. -/
def texts? (document : Document) : Option (List String) :=
  (document.list? dialect).bind fun items => items.mapM (text? dialect)

/-- The document as a screen size. -/
def viewport? (document : Document) : Option ViewportPreset := do
  match ← document.record? dialect ["label", "width", "height"] with
  | [label, width, height] =>
    let size := optional? dialect (natural? dialect word32)
    return { label := ← label.required (text? dialect)
             width := ← width.withDefault none size
             height := ← height.withDefault none size }
  | _ => none

/-- The document as a locale. -/
def locale? (document : Document) : Option LocalePreset := do
  match ← document.record? dialect ["label", "fallback"] with
  | [label, fallback] =>
    return { label := ← label.required (text? dialect)
             fallback := ← fallback.withDefault [] (texts? dialect) }
  | _ => none

/-- The fields of the display of a site. -/
def displayFields : List String := ["structure", "viewportPresets", "localePresets"]

/-- The document as a site without hide patterns. -/
def display? (document : Document) : Option Site := do
  match ← document.record? dialect displayFields with
  | [rules, viewports, locales] =>
    return { rules := ← rules.withDefault [] (rules? dialect)
             viewports := ← viewports.withDefault [] (keyed? dialect (viewport? dialect))
             locales := ← locales.withDefault [] (keyed? dialect (locale? dialect)) }
  | _ => none

/-- The fields of a site. -/
def siteFields : List String := ["ui", "hiddenPrototypeNamePatterns"]

/-- The document as a site. -/
def site? (document : Document) : Option Site := do
  match ← document.record? dialect siteFields with
  | [display, patterns] =>
    let site ← display.withDefault {} (display? dialect)
    return { site with hidePatterns := ← patterns.withDefault [] (texts? dialect) }
  | _ => none

/-- The document as an override of the display. -/
def displayOverride? (document : Document) : Option DisplayOverride := do
  match ← document.record? dialect displayFields with
  | [rules, viewports, locales] =>
    return { rules := ← rules.optional dialect (rules? dialect)
             viewports := ← viewports.optional dialect (keyed? dialect (viewport? dialect))
             locales := ← locales.optional dialect (keyed? dialect (locale? dialect)) }
  | _ => none

/-- The document as an override. -/
def siteOverride? (document : Document) : Option SiteOverride := do
  match ← document.record? dialect siteFields with
  | [display, patterns] =>
    return { display := ← display.optional dialect (displayOverride? dialect)
             hidePatterns := ← patterns.optional dialect (texts? dialect) }
  | _ => none

/-- The document as the indentation that rendering uses. -/
def indent? (document : Document) : Option String := do
  match ← document.record? dialect ["indent"] with
  | [indent] => indent.withDefault defaultIndent (text? dialect)
  | _ => none

/-- The document as a merge policy. -/
def policy? (document : Document) : Option MergePolicy :=
  (document.variant? dialect).bind MergePolicy.ofName?

/-- The document as settings. -/
def settings? (document : Document) : Option Settings := do
  let names := ["defaultPackage", "fragmentsPath", "mergePolicy", "maxDepth", "render", "site",
    "packages"]
  match ← document.record? dialect names with
  | [defaultPackage, fragmentsPath, policy, maxDepth, render, site, packages] =>
    let text := optional? dialect (text? dialect)
    let packages ← packages.withDefault [] (keyed? dialect (siteOverride? dialect))
    return { defaultPackage := ← defaultPackage.withDefault none text
             fragmentsPath := ← fragmentsPath.withDefault none text
             mergePolicy := ← policy.withDefault .override (policy? dialect)
             maxDepth := ← maxDepth.withDefault defaultMaxDepth (natural? dialect word64)
             indent := ← render.withDefault defaultIndent (indent? dialect)
             site := ← site.withDefault {} (site? dialect)
             packages := Keyed.sorted packages }
  | _ => none

end Document

end ComponentAtlas

import ComponentAtlas.Classifier
import ComponentAtlas.Merge
import ComponentAtlas.Text.Quoted

/-!
# Settings

What a user configures: how fragments are merged and shown, and the site: structure rules, hide patterns
and presets. A package may override parts of the site; every part that it gives replaces the global one.
-/

namespace ComponentAtlas

/-- A screen size that previews offer. -/
structure ViewportPreset where
  label : String
  width : Option Nat := none
  height : Option Nat := none
  deriving DecidableEq, Inhabited

/-- A locale that previews offer, with the locales that stand in for it. -/
structure LocalePreset where
  label : String
  fallback : List String := []
  deriving DecidableEq, Inhabited

/-- The configuration of a site. -/
structure Site where
  rules : List StructureRule := []
  viewports : Keyed ViewportPreset := []
  locales : Keyed LocalePreset := []
  hidePatterns : List String := []
  deriving DecidableEq, Inhabited

/-- What a package overrides of the parts of a site that concern its display. -/
structure DisplayOverride where
  rules : Option (List StructureRule) := none
  viewports : Option (Keyed ViewportPreset) := none
  locales : Option (Keyed LocalePreset) := none
  deriving DecidableEq, Inhabited

/-- What a package overrides of a site. -/
structure SiteOverride where
  display : Option DisplayOverride := none
  hidePatterns : Option (List String) := none
  deriving DecidableEq, Inhabited

namespace Site

/-- The site with every part replaced that an override gives. -/
def overlay (site : Site) (change : SiteOverride) : Site :=
  let display := change.display.getD {}
  { rules := display.rules.getD site.rules
    viewports := display.viewports.getD site.viewports
    locales := display.locales.getD site.locales
    hidePatterns := change.hidePatterns.getD site.hidePatterns }

/-- The compiled rules and patterns of a site. -/
def classifier (site : Site) : Except Fault Classifier :=
  Classifier.compile site.rules site.hidePatterns

end Site

/-- The indentation of source text unless another one is configured. -/
def defaultIndent : String := "    "

/-- How many levels of transitive anatomy are shown unless another number is configured. -/
def defaultMaxDepth : Nat := 8

/-- Settings. -/
structure Settings where
  /-- The package of queries that name none. -/
  defaultPackage : Option String := none
  /-- The directory that holds a directory of fragments for each package. -/
  fragmentsPath : Option String := none
  mergePolicy : MergePolicy := .override
  maxDepth : Nat := defaultMaxDepth
  indent : String := defaultIndent
  site : Site := {}
  /-- The overrides of packages, in ascending order of their names. -/
  packages : Keyed SiteOverride := []
  deriving DecidableEq, Inhabited

/-- A problem that does not keep settings from being used. -/
inductive Warning
  | noDepth
  | noIndent
  /-- The default package has no section although others have. -/
  | defaultPackage (name : String)
  /-- The patterns of a section do not compile. -/
  | brokenPattern (owner : String) (fault : Fault)
  | emptyLabel (owner pattern : String)
  deriving DecidableEq, Inhabited

/-- The wording of a warning. -/
def Warning.message : Warning → String
  | noDepth => "maxDepth is 0: transitive anatomy will not expand anything"
  | noIndent => "render.indent is empty: nested blocks will not be indented"
  | defaultPackage name => "defaultPackage '" ++ name ++ "' has no package section"
  | brokenPattern name fault => name ++ ": " ++ fault.message
  | emptyLabel name pattern => name ++ ": structure rule '" ++ pattern ++ "' has an empty label"

/-- The name under which warnings mention the global site. -/
def globalSection : String := "<global>"

/-- What is wrong with a section. -/
def Site.warnings (site : Site) (name : String) : List Warning :=
  (match site.classifier with
    | .ok _ => []
    | .error fault => [.brokenPattern name fault]) ++
  (site.rules.filter fun rule => Text.isBlank rule.group.label).map fun rule =>
    .emptyLabel name rule.pattern

namespace Settings

/-- The configuration in force for a package. -/
def siteOf (settings : Settings) (package : String) : Site :=
  match settings.packages.find? package with
  | some change => settings.site.overlay change
  | none => settings.site

/-- All that is wrong with settings. -/
def warnings (settings : Settings) : List Warning :=
  (if settings.maxDepth = 0 then [.noDepth] else []) ++
  (if settings.indent = "" then [.noIndent] else []) ++
  (match settings.defaultPackage with
    | some name =>
      if !settings.packages.isEmpty && !settings.packages.has name then [.defaultPackage name] else []
    | none => []) ++
  settings.site.warnings globalSection ++
  settings.packages.keys.flatMap fun name => (settings.siteOf name).warnings name

end Settings

end ComponentAtlas

import ComponentAtlas.Catalog
import ComponentAtlas.Fragments
import ComponentAtlas.Settings

/-!
# Queries

Questions about the packages of a source. Each merges the fragments of its package afresh and refuses
a tree that is not well named.
-/

namespace ComponentAtlas

/-- A source of fragments with the settings in force. -/
structure Inspector where
  source : FragmentSource
  settings : Settings := {}
  deriving Inhabited

/-- The merged fragments of a package. -/
def FragmentSource.mergedTree (source : FragmentSource) (policy : MergePolicy) (package : String) :
    Except Fault Tree := do
  let tree ← policy.merge (← source.ofPackage package)
  tree.validate
  return tree

namespace Inspector

/-- The packages of the source. -/
def packages (inspector : Inspector) : Except Fault (List String) :=
  inspector.source.packages

/-- What stands for a package where there is none. -/
def noPackage : String := "<none>"

/-- The package that a query is about: the one it names, else the default, else the first. -/
def resolvePackage (inspector : Inspector) (package : Option String) : Except Fault String :=
  match package <|> inspector.settings.defaultPackage with
  | some name => .ok name
  | none => do
    match (← inspector.packages).head? with
    | some name => .ok name
    | none => .error (.unknownPackage noPackage)

/-- The merged tree of a package. -/
def mergedTree (inspector : Inspector) (package : String) : Except Fault Tree :=
  inspector.source.mergedTree inspector.settings.mergePolicy package

/-- The compiled rules and hide patterns of a package. -/
def classifier (inspector : Inspector) (package : String) : Except Fault Classifier :=
  (inspector.settings.siteOf package).classifier

/-- All prototypes of a package. -/
def listing (inspector : Inspector) (package : String) : Except Fault (Keyed Listing) :=
  Tree.listing <$> inspector.mergedTree package

/-- The catalog of a package. -/
def catalog (inspector : Inspector) (package : String) :
    Except Fault (Keyed StyleguideObject) := do
  let classifier ← inspector.classifier package
  return (← inspector.mergedTree package).catalog classifier

/-- The source text of a prototype. -/
def renderPrototype (inspector : Inspector) (package name : String) : Except Fault String := do
  (← inspector.mergedTree package).renderPrototype inspector.settings.indent name

/-- The source text of the paths of a package. -/
def renderPaths (inspector : Inspector) (package : String) : Except Fault String := do
  SourceText.renderPaths inspector.settings.indent (← inspector.mergedTree package).paths

/-- The detail view of a prototype. -/
def detail (inspector : Inspector) (package name : String) : Except Fault PrototypeDetail := do
  (← inspector.mergedTree package).detail inspector.settings.indent name

/-- The composition of a prototype, to the given depth or else the configured one. -/
def resolve (inspector : Inspector) (package name : String) (depth : Option Nat := none) :
    Except Fault Composition := do
  (← inspector.mergedTree package).resolve name (depth.getD inspector.settings.maxDepth)

/-- The screen sizes that previews of a package offer. -/
def viewports (inspector : Inspector) (package : String) : Keyed ViewportPreset :=
  (inspector.settings.siteOf package).viewports

/-- The locales that previews of a package offer. -/
def locales (inspector : Inspector) (package : String) : Keyed LocalePreset :=
  (inspector.settings.siteOf package).locales

end Inspector

end ComponentAtlas

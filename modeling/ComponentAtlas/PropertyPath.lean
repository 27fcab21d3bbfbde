/-!
# Property paths

A property path names a position: it starts at the rendering paths or inside a prototype and
descends through property names.
-/

namespace ComponentAtlas

/-- Where a property path starts. -/
inductive PathRoot
  /-- The rendering paths of the tree. -/
  | paths
  /-- The body of a prototype. -/
  | prototype (name : String)
  deriving DecidableEq, Inhabited

/-- A position in a component tree. -/
structure PropertyPath where
  root : PathRoot := .paths
  segments : List String := []
  deriving DecidableEq, Inhabited

namespace PropertyPath

/-- The root of the rendering paths. -/
def ofPaths : PropertyPath := {}

/-- The root of a prototype. -/
def ofPrototype (name : String) : PropertyPath :=
  { root := .prototype name }

/-- One step down. -/
def child (path : PropertyPath) (segment : String) : PropertyPath :=
  { path with segments := path.segments ++ [segment] }

/-- The number of steps below the root. -/
def depth (path : PropertyPath) : Nat :=
  path.segments.length

/-- The steps joined by dots, without the root. -/
def relative (path : PropertyPath) : String :=
  ".".intercalate path.segments

/-- The path as messages show it. -/
def display (path : PropertyPath) : String :=
  match path.root with
  | .paths => if path.segments.isEmpty then "<root>" else path.relative
  | .prototype name =>
    "prototype(" ++ name ++ ")" ++ String.join (path.segments.map fun segment => "." ++ segment)

end PropertyPath

end ComponentAtlas

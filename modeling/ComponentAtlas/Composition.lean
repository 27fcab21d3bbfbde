import ComponentAtlas.Anatomy

/-!
# Composition

The parts of a prototype, the parts of these, and so on through the tree. Prototypes may refer to
each other in circles, so each is expanded once, at its first position in document order, and the
depth is bounded by a budget.
-/

namespace ComponentAtlas

/-- What became of a position. -/
inductive Expansion
  /-- The prototype was looked up and its parts follow. -/
  | expanded
  /-- The prototype was expanded at an earlier position. -/
  | revisited
  /-- The position lies deeper than the budget allows. -/
  | depthLimit
  /-- The tree has no prototype of that name. -/
  | unresolved
  deriving DecidableEq, Inhabited

/-- The name of an expansion in data files. -/
def Expansion.name : Expansion → String
  | expanded => "expanded"
  | revisited => "revisited"
  | depthLimit => "depthLimit"
  | unresolved => "unresolved"

/-- A position with the positions of its parts. -/
inductive Composition
  | position (prototype : String) (role : Option String) (status : Expansion)
      (parent : Option String) (parts : List Composition)

/-- Runs a step over a list from left to right, handing the state on, and collects the results. -/
def threadMap {σ α β : Type} (step : σ → α → β × σ) : σ → List α → List β × σ
  | state, [] => ([], state)
  | state, a :: rest =>
    let (b, next) := step state a
    let (others, last) := threadMap step next rest
    (b :: others, last)

namespace Composition

/-- A position whose parts are not shown. -/
def leaf (prototype : String) (role : Option String) (status : Expansion) : Composition :=
  .position prototype role status none []

mutual

/-- The number of positions, this one included. -/
def size : Composition → Nat
  | .position _ _ _ _ parts => 1 + sizes parts

/-- The number of positions in a list. -/
def sizes : List Composition → Nat
  | [] => 0
  | part :: rest => part.size + sizes rest

end

end Composition

namespace Tree

/-- Expands a prototype at a position with the given role, with the given number of levels to go, its
own included; returns the names expanded so far as well. -/
def expand (tree : Tree) :
    Nat → List String → (name : String) → (role : Option String) → Composition × List String
  | levels, visited, name, role =>
    match tree.prototypes.find? name with
    | none => (.leaf name role .unresolved, visited)
    | some node =>
      match levels with
      | 0 => (.leaf name role .depthLimit, visited)
      | levels + 1 =>
        if name ∈ visited then (.leaf name role .revisited, visited)
        else
          let anatomy := node.anatomy
          let (parts, visited) :=
            threadMap (fun seen part => expand tree levels seen part.prototype (some part.role))
              (name :: visited) anatomy.parts
          (.position name role .expanded anatomy.parent parts, visited)

/-- The composition of a prototype, at most `depth` levels below it. -/
def resolve (tree : Tree) (name : String) (depth : Nat) : Except Fault Composition := do
  let _ ← tree.prototype name
  return (tree.expand (depth + 1) [] name none).1

end Tree

end ComponentAtlas

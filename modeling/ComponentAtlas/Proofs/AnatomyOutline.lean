import ComponentAtlas.Proofs.AnatomyParts

/-!
# Outlines and flat lists of parts

The outline of a prototype restarts the role at every instance, the list of its parts keeps the
whole way from the prototype. Joining the roles on the way down the outline gives the list back: a
role is the text of its steps, and the text of two runs of steps is that of the first, a dot, and
that of the second, unless one of the runs is empty.
-/

namespace ComponentAtlas

namespace Outline

/-- The role of an instance from the prototype on, given that of the instance around, if there is
one. -/
def fullRole (around : Option String) (role : String) : String :=
  match around with
  | some outer => outer ++ "." ++ role
  | none => role

mutual

/-- The instances of an outline in pre-order, each with its role from the prototype on. -/
def flatten (around : Option String) : Outline → List Part
  | .node role prototype children =>
    ⟨fullRole around role, prototype⟩ :: flattenAmong (some (fullRole around role)) children

/-- The instances of several outlines in pre-order. -/
def flattenAmong (around : Option String) : List Outline → List Part
  | [] => []
  | outline :: rest => outline.flatten around ++ flattenAmong around rest

end

/-- The instances of two lists of outlines are those of the one before those of the other. -/
theorem flattenAmong_append (around : Option String) (left right : List Outline) :
    flattenAmong around (left ++ right) =
      flattenAmong around left ++ flattenAmong around right := by
  induction left with
  | nil => rfl
  | cons outline rest ih => simp only [List.cons_append, flattenAmong, ih, List.append_assoc]

/-- The role of the instance that given steps lead to, if there are any. -/
def enclosing (steps : List String) : Option String :=
  if steps = [] then none else some (roleText steps)

/-- The role from the prototype on is that of the steps to the instance around and the steps since.
A step may be an empty text or hold dots of its own; only the number of steps matters. -/
theorem fullRole_enclosing (outer : List String) {inner : List String} (hinner : inner ≠ []) :
    fullRole (enclosing outer) (roleText inner) = roleText (outer ++ inner) := by
  by_cases houter : outer = []
  · rw [enclosing, if_pos houter, houter]
    rfl
  · rw [enclosing, if_neg houter]
    exact (String.intercalate_append_of_ne_nil houter hinner).symm

end Outline

open Outline (enclosing fullRole_enclosing flattenAmong flattenAmong_append)

mutual

/-- Flattening the outline of a node gives the parts at and below it. The steps to the node split
into those to the instance around, which the outline leaves out, and those since, of which there is
at least one. -/
theorem Node.flattenAmong_outlineAt (outer inner : List String)
    (hinner : inner ≠ []) :
    ∀ node : Node, flattenAmong (enclosing outer) (node.outlineAt inner) =
      node.partsAt (outer ++ inner)
  | .scalar _ | .expression _ => rfl
  | .reference prototype overrides => by
    have hne : outer ++ inner ≠ [] := by simp [hinner]
    have haround : some (roleText (outer ++ inner)) = enclosing (outer ++ inner) := by
      rw [enclosing, if_neg hne]
    have hoverrides := flattenAmong_outlineAmong (outer ++ inner) [] overrides
    simp only [Node.outlineAt, flattenAmong, Outline.flatten, fullRole_enclosing outer hinner,
      haround, hoverrides, Node.partsAt, List.append_nil]
  | .object properties => flattenAmong_outlineAmong outer inner properties
  | .directives entries => flattenAmong_directiveOutline outer inner entries

/-- Flattening the outlines of entries gives the parts at and below them. -/
theorem flattenAmong_outlineAmong (outer inner : List String) :
    ∀ entries : List (String × Node), flattenAmong (enclosing outer) (outlineAmong inner entries) =
      partsAmong (outer ++ inner) entries
  | [] => rfl
  | (key, node) :: rest => by
    have hrest := flattenAmong_outlineAmong outer inner rest
    have hnode := node.flattenAmong_outlineAt outer (inner ++ [key]) (by simp)
    cases node with
    | directives entries =>
      rw [outlineAmong, flattenAmong_append, hrest, flattenAmong_directiveOutline]
      rfl
    | scalar _ | expression _ | reference _ _ | object _ =>
      simp only [outlineAmong, partsAmong, flattenAmong_append, hnode, hrest, List.append_assoc]

/-- Flattening the outlines of directives gives the parts at and below them. -/
theorem flattenAmong_directiveOutline (outer inner : List String) :
    ∀ entries : List (String × Node),
      flattenAmong (enclosing outer) (directiveOutline inner entries) =
        directiveParts (outer ++ inner) entries
  | [] => rfl
  | (name, node) :: rest => by
    have hnode := node.flattenAmong_outlineAt outer (inner ++ [directiveStep name]) (by simp)
    rw [directiveOutline, directiveParts, flattenAmong_append, hnode, List.append_assoc,
      flattenAmong_directiveOutline outer inner rest]

end

/-- The outline and the anatomy agree: with the roles joined on the way down and every repetition
dropped, the instances of the outline in pre-order are the parts. -/
theorem Node.eraseDups_flattenAmong_outline (node : Node) :
    (flattenAmong none node.outline).eraseDups = node.anatomy.parts := by
  have hnone : none = enclosing [] := rfl
  rw [anatomy_parts, distinct_eq_eraseDups, hnone]
  congr 1
  cases node with
  | scalar _ | expression _ => rfl
  | reference _ entries | object entries => exact flattenAmong_outlineAmong [] [] entries
  | directives entries => exact flattenAmong_directiveOutline [] [] entries

/-- A key with dots leads to a second instance of the same role, which is dropped. -/
example :
    let wrapper : Node := .directives [("process", .object [("wrap", .reference "Wrapper" [])])]
    let page : Node := .object [("card", .reference "Card" [(metaKey, wrapper)]),
      ("card.@process", .object [("wrap", .reference "Wrapper" [])])]
    flattenAmong none page.outline = [⟨"card", "Card"⟩, ⟨"card.@process.wrap", "Wrapper"⟩,
        ⟨"card.@process.wrap", "Wrapper"⟩] ∧
      page.anatomy.parts = [⟨"card", "Card"⟩, ⟨"card.@process.wrap", "Wrapper"⟩] :=
  ⟨rfl, rfl⟩

end ComponentAtlas

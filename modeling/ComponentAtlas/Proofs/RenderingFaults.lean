import ComponentAtlas.Proofs.DocumentOrder
import ComponentAtlas.Proofs.Statements

/-!
# Where rendering fails

Source text has a form for every node except numbers that are not finite. Rendering fails when there
is one, and reports the first in document order at its place, however the directives above it are
written.
-/

namespace ComponentAtlas

/-- The fault with which a computation ends, if it does not succeed. -/
def faultOf? {α : Type} : Except Fault α → Option Fault
  | .ok _ => none
  | .error fault => some fault

section FaultOf

variable {α β : Type}

/-- The fault of an outcome is the one that it fails with. -/
theorem faultOf?_eq_some {outcome : Except Fault α} {fault : Fault} :
    faultOf? outcome = some fault ↔ outcome = .error fault := by
  cases outcome <;> simp [faultOf?]

/-- What is made of a result does not count for the fault. -/
theorem faultOf?_map (f : α → β) (outcome : Except Fault α) :
    faultOf? (f <$> outcome) = faultOf? outcome := by
  cases outcome <;> rfl

/-- Of two computations one after the other the first fault counts. -/
theorem faultOf?_append (first others : Except Fault (List α)) :
    faultOf? (do
      let lines ← first
      let more ← others
      return lines ++ more) = (faultOf? first).or (faultOf? others) := by
  cases first <;> cases others <;> rfl

end FaultOf

/-- Whether a node is anything but a NaN or an infinity. -/
def Node.HasFiniteValue (node : Node) : Prop :=
  ∀ value : Float, node = .scalar (.float value) → value.isFinite = true

namespace Located

/-- The fault with which rendering stops at a place below a given root, if it does. -/
def fault? (root : PathRoot) (found : Located) : Option Fault :=
  match found.node with
  | .scalar literal =>
    if literal.isRenderable then none
    else some (.unsupportedLiteral ⟨root, found.steps⟩ literal)
  | _ => none

/-- Rendering stops at no node that holds no value. -/
theorem fault?_of_not_scalar {found : Located} (h : ∀ literal, found.node ≠ .scalar literal)
    (root : PathRoot) : found.fault? root = none := by
  obtain ⟨steps, node⟩ := found
  cases node with
  | scalar literal => exact absurd rfl (h literal)
  | expression _ | reference _ _ | object _ | directives _ => rfl

/-- Rendering stops exactly at numbers that are not finite. -/
theorem fault?_eq_some {root : PathRoot} {found : Located} {fault : Fault} :
    found.fault? root = some fault ↔ ∃ value : Float, found.node = .scalar (.float value) ∧
      value.isFinite = false ∧ .unsupportedLiteral ⟨root, found.steps⟩ (.float value) = fault := by
  obtain ⟨steps, node⟩ := found
  cases node with
  | scalar literal =>
    cases literal with
    | float value => cases h : value.isFinite <;> simp [fault?, Literal.isRenderable, h]
    | null | bool _ | integer _ | string _ => simp [fault?, Literal.isRenderable]
  | expression _ | reference _ _ | object _ | directives _ => simp [fault?]

/-- Rendering does not stop at a place whose value is finite. -/
theorem fault?_eq_none {root : PathRoot} {found : Located} :
    found.fault? root = none ↔ found.node.HasFiniteValue := by
  constructor
  · intro hnone value hnode
    cases hvalue : value.isFinite with
    | true => rfl
    | false =>
      rw [fault?_eq_some.mpr ⟨value, hnode, hvalue, rfl⟩] at hnone
      cases hnone
  · intro hfinite
    refine Option.eq_none_iff_forall_ne_some.mpr fun fault hfault => ?_
    obtain ⟨value, hnode, hvalue, -⟩ := fault?_eq_some.mp hfault
    rw [hfinite value hnode] at hvalue
    cases hvalue

end Located

/-- The fault with which rendering stops at the first of the given nodes that has no form. -/
def firstUnsupported? (root : PathRoot) (nodes : List Located) : Option Fault :=
  nodes.findSome? (Located.fault? root)

namespace SourceText

/-- Whether rendering a node, or its children in any of the ways that children of directives are
rendered, fails with the first fault in document order. -/
structure FailsFirst (node : Node) : Prop where
  property : ∀ key path depth, faultOf? (propertyLines key path depth node) =
    firstUnsupported? path.root (node.located path.segments)
  directives : ∀ path depth, faultOf? (directiveLines path depth node.children) =
    firstUnsupported? path.root (locatedAmong .directives path.segments node.children)
  flat : isFlat node.children → ∀ key path depth,
    faultOf? (flatLines key path depth node.children) =
      firstUnsupported? path.root (locatedAmong .object path.segments node.children)

/-- The first place at which rendering stops is among the first places, or else among the others. -/
theorem firstUnsupported?_append (root : PathRoot) (first others : List Located) :
    firstUnsupported? root (first ++ others) =
      (firstUnsupported? root first).or (firstUnsupported? root others) :=
  List.findSome?_append

/-- Rendering stops at a single place when it stops there. -/
theorem firstUnsupported?_singleton (root : PathRoot) (found : Located) :
    firstUnsupported? root [found] = found.fault? root := by
  rw [firstUnsupported?, List.findSome?_cons]
  cases found.fault? root <;> rfl

/-- A literal without a form is the one that is reported. -/
theorem faultOf?_formatLiteral (path : PropertyPath) (literal : Literal) :
    faultOf? (formatLiteral path literal) =
      (Located.mk path.segments (.scalar literal)).fault? path.root := by
  by_cases h : literal.isRenderable
  · rw [formatLiteral_of_isRenderable h]
    simp [faultOf?, Located.fault?, h]
  · simp [formatLiteral, faultOf?, Located.fault?, h]

/-- A node that is no scalar has a form of its own, so only what is below it counts. -/
theorem firstUnsupported?_located {node : Node} (h : ∀ literal, node ≠ .scalar literal)
    (root : PathRoot) (steps : List String) : firstUnsupported? root (node.located steps) =
      firstUnsupported? root (locatedAmong node.kind steps node.children) := by
  have hnone : (Located.mk steps node).fault? root = none := Located.fault?_of_not_scalar h root
  rw [Node.located_eq, firstUnsupported?, List.findSome?_cons, hnone]
  rfl

section Entries

variable {entries : List (String × Node)}

/-- Properties fail to render at the first place below them, when this is so of the nodes under
them. -/
theorem faultOf?_bodyLines (h : ∀ entry ∈ entries, FailsFirst entry.2) (path : PropertyPath)
    (depth : Nat) : faultOf? (bodyLines path depth entries) =
      firstUnsupported? path.root (locatedAmong .object path.segments entries) := by
  induction entries with
  | nil => rfl
  | cons entry rest ih =>
    obtain ⟨key, node⟩ := entry
    obtain ⟨hnode, hrest⟩ := List.forall_mem_cons.mp h
    rw [locatedAmong, firstUnsupported?_append, ← ih hrest]
    by_cases hkind : node.kind = .directives
    · cases node with
      | directives entries =>
        have hplace : path.segments ++ Kind.object.stepsTo .directives key = path.segments :=
          List.append_nil _
        rw [bodyLines, Node.kind, hplace, firstUnsupported?_located (by simp)]
        exact (faultOf?_append _ _).trans
          (congrArg (Option.or · _) (hnode.directives path depth))
      | scalar _ | expression _ | reference _ _ | object _ => cases hkind
    · rw [bodyLines_property hkind, faultOf?_append, hnode.property]
      simp [Kind.stepsTo, hkind, PropertyPath.child]

/-- Flattened properties fail to render at the first place below them, when this is so of the nodes
under them. -/
theorem faultOf?_flatLines (h : ∀ entry ∈ entries, FailsFirst entry.2)
    (hflat : ∀ entry ∈ entries, entry.2.kind ≠ .directives) (key : String) (path : PropertyPath)
    (depth : Nat) : faultOf? (flatLines key path depth entries) =
      firstUnsupported? path.root (locatedAmong .object path.segments entries) := by
  induction entries with
  | nil => rfl
  | cons entry rest ih =>
    obtain ⟨name, node⟩ := entry
    obtain ⟨hnode, hrest⟩ := List.forall_mem_cons.mp h
    obtain ⟨hkind, hothers⟩ := List.forall_mem_cons.mp hflat
    rw [locatedAmong, firstUnsupported?_append, ← ih hrest hothers, flatLines, faultOf?_append,
      hnode.property]
    simp [Kind.stepsTo, hkind, PropertyPath.child]

/-- Directives fail to render at the first place below them, when this is so of the nodes under
them. -/
theorem faultOf?_directiveLines (h : ∀ entry ∈ entries, FailsFirst entry.2) (path : PropertyPath)
    (depth : Nat) : faultOf? (directiveLines path depth entries) =
      firstUnsupported? path.root (locatedAmong .directives path.segments entries) := by
  induction entries with
  | nil => rfl
  | cons entry rest ih =>
    obtain ⟨name, node⟩ := entry
    obtain ⟨hnode, hrest⟩ := List.forall_mem_cons.mp h
    rw [locatedAmong, firstUnsupported?_append, ← ih hrest]
    by_cases hkind : node.kind = .object
    · cases node with
      | object properties =>
        have hplace : path.segments ++ Kind.directives.stepsTo .object name =
            (path.child ("@" ++ name)).segments := rfl
        rw [directiveLines, Node.kind, hplace]
        split
        · rename_i hflat
          rw [firstUnsupported?_located (by simp)]
          exact (faultOf?_append _ _).trans
            (congrArg (Option.or · _) (hnode.flat hflat _ (path.child ("@" ++ name)) depth))
        · exact (faultOf?_append _ _).trans
            (congrArg (Option.or · _) (hnode.property _ (path.child ("@" ++ name)) depth))
      | scalar _ | expression _ | reference _ _ | directives _ => cases hkind
    · rw [directiveLines_value hkind, faultOf?_append, hnode.property]
      simp [Kind.stepsTo, PropertyPath.child, directiveStep]

end Entries

/-- Rendering a node fails with the first fault in document order. -/
theorem failsFirst (node : Node) : FailsFirst node := by
  induction node using Node.inductionOnChildren with
  | step node ih =>
    refine ⟨fun key path depth => ?_, faultOf?_directiveLines ih, fun hflat => ?_⟩
    · cases node with
      | scalar literal =>
        have hlines : faultOf? (propertyLines key path depth (.scalar literal)) =
            faultOf? (formatLiteral path literal) := by
          rw [propertyLines]
          cases formatLiteral path literal <;> rfl
        rw [hlines, faultOf?_formatLiteral, Node.located, firstUnsupported?_singleton]
      | expression text => rfl
      | reference prototype overrides =>
        rw [propertyLines, firstUnsupported?_located (by simp)]
        split
        · rename_i hempty
          rw [Node.children, Node.children?, Option.getD_some, List.isEmpty_iff.mp hempty]
          rfl
        · rw [faultOf?_map, Node.kind, locatedAmong_of_ne (by decide)]
          exact faultOf?_bodyLines ih path (depth + 1)
      | object properties =>
        rw [propertyLines, firstUnsupported?_located (by simp), faultOf?_map]
        exact faultOf?_bodyLines ih path (depth + 1)
      | directives entries =>
        rw [propertyLines, firstUnsupported?_located (by simp), faultOf?_map]
        exact faultOf?_directiveLines ih path (depth + 1)
    · exact faultOf?_flatLines ih (isFlat_iff.mp hflat).2

/-- Rendering a definition fails with the first fault in document order, the root included. -/
theorem faultOf?_prototypeLines (name : String) (node : Node) :
    faultOf? (prototypeLines name node) =
      firstUnsupported? (.prototype name) (node.located []) := by
  have hproperty := (failsFirst node).property ("prototype(" ++ name ++ ")") (.ofPrototype name) 0
  cases node with
  | reference parent overrides =>
    rw [prototypeLines, faultOf?_map, firstUnsupported?_located (by simp), Node.kind,
      locatedAmong_of_ne (by decide)]
    exact faultOf?_bodyLines (fun entry _ => failsFirst entry.2) (.ofPrototype name) 1
  | scalar _ | expression _ | object _ | directives _ => exact hproperty

/-- Rendering the paths fails with the first fault in document order. -/
theorem faultOf?_pathLines (paths : Keyed Node) :
    faultOf? (pathLines paths) = firstUnsupported? .paths (locatedAmong .object [] paths) :=
  faultOf?_bodyLines (fun entry _ => failsFirst entry.2) .ofPaths 0

end SourceText

/-- What it is for a fault to report the first number among given nodes that is not finite. -/
def ReportsFirstNonFinite (root : PathRoot) (nodes : List Located) (fault : Fault) : Prop :=
  ∃ before steps value after, nodes = before ++ ⟨steps, .scalar (.float value)⟩ :: after ∧
    value.isFinite = false ∧ (∀ earlier ∈ before, earlier.node.HasFiniteValue) ∧
    fault = .unsupportedLiteral ⟨root, steps⟩ (.float value)

/-- Rendering stops nowhere exactly when all values are finite. -/
theorem firstUnsupported?_eq_none {root : PathRoot} {nodes : List Located} :
    firstUnsupported? root nodes = none ↔ ∀ found ∈ nodes, found.node.HasFiniteValue := by
  simp only [firstUnsupported?, List.findSome?_eq_none_iff, Located.fault?_eq_none]

/-- The fault of the first place at which rendering stops reports the first number that is not
finite. -/
theorem reportsFirstNonFinite {root : PathRoot} {nodes : List Located} {fault : Fault}
    (h : firstUnsupported? root nodes = some fault) : ReportsFirstNonFinite root nodes fault := by
  obtain ⟨before, found, after, hnodes, hfault, hbefore⟩ := List.findSome?_eq_some_iff.mp h
  obtain ⟨steps, node⟩ := found
  obtain ⟨value, rfl, hvalue, rfl⟩ := Located.fault?_eq_some.mp hfault
  exact ⟨before, steps, value, after, hnodes, hvalue,
    fun earlier hearlier => Located.fault?_eq_none.mp (hbefore earlier hearlier), rfl⟩

/-- What is reported of nodes by a computation that fails with the first fault among them. -/
theorem fails_iff_of_faultOf? {α : Type} {outcome : Except Fault α} {root : PathRoot}
    {nodes : List Located} (h : faultOf? outcome = firstUnsupported? root nodes) :
    ((∃ fault, outcome = .error fault) ↔ ¬∀ found ∈ nodes, found.node.HasFiniteValue) ∧
      ∀ fault, outcome = .error fault → ReportsFirstNonFinite root nodes fault := by
  constructor
  · rw [← firstUnsupported?_eq_none, ← h, ← ne_eq, Option.ne_none_iff_exists']
    simp only [faultOf?_eq_some]
  · intro fault hfault
    exact reportsFirstNonFinite (h.symm.trans (faultOf?_eq_some.mpr hfault))

open SourceText

/-- Rendering a definition fails exactly on numbers that are not finite and reports the first. -/
theorem renderPrototype_reports (indent name : String) (node : Node) :
    ((∃ fault, renderPrototype indent name node = .error fault) ↔
      ¬node.Everywhere Node.HasFiniteValue) ∧
    ∀ fault, renderPrototype indent name node = .error fault →
      ReportsFirstNonFinite (.prototype name) (node.located []) fault := by
  rw [Node.everywhere_iff_located []]
  exact fails_iff_of_faultOf? ((faultOf?_map _ _).trans (faultOf?_prototypeLines name node))

/-- Rendering fails exactly on numbers that are not finite, at any depth, and reports the first one
in document order at its place. The places are those that the roles of anatomies are made of. -/
theorem render_fails_first (indent : String) :
    (∀ (name : String) (node : Node),
      ((∃ fault, renderPrototype indent name node = .error fault) ↔
        ¬node.Everywhere Node.HasFiniteValue) ∧
      ∀ fault, renderPrototype indent name node = .error fault →
        ReportsFirstNonFinite (.prototype name) (node.located []) fault) ∧
    (∀ paths : Keyed Node,
      ((∃ fault, renderPaths indent paths = .error fault) ↔
        ¬EverywhereAmong Node.HasFiniteValue paths) ∧
      ∀ fault, renderPaths indent paths = .error fault →
        ReportsFirstNonFinite .paths (locatedAmong .object [] paths) fault) ∧
    ∀ node : Node, node.anatomy.parts =
      distinct ((locatedAmong node.kind [] node.children).filterMap Located.part?) := by
  refine ⟨renderPrototype_reports indent, fun paths => ?_, Node.anatomy_parts_eq_located⟩
  rw [everywhereAmong_iff_located .object []]
  exact fails_iff_of_faultOf? ((faultOf?_map _ _).trans (faultOf?_pathLines paths))

/-- Infinity in a flattened directive of an override, before another one. The directives among the
overrides add no step. -/
example :
    let infinite : Node := .scalar (.float (1.0 / 0.0))
    let card : Node := .reference "Card" [("size", .scalar (.float 1.5)),
      (metaKey, .directives [("if", .object [("wide", infinite)])])]
    renderPrototype "  " "Page" (.object [("body", card), ("height", infinite)]) =
      .error (.unsupportedLiteral ⟨.prototype "Page", ["body", "@if", "wide"]⟩
        (.float (1.0 / 0.0))) := by
  rfl

end ComponentAtlas

import ComponentAtlas.Proofs.NodeInduction
import ComponentAtlas.SourceText.Render

/-!
# Statements of source text

Source text is a sequence of statements, some of which hold further statements. A node determines
the statements that are written for it, and rendering a node writes out exactly these, whatever the
indentation.
-/

namespace ComponentAtlas

/-- The characters of prototype names. -/
def isNameChar (c : Char) : Bool :=
  SourceText.isBareKeyChar c || c == '.'

/-- Whether a text has the form of a prototype name: its characters are those of names, and a colon
separates the package from the rest. -/
def IsPrototypeName (name : String) : Prop :=
  ':' ∈ name.toList ∧ name.toList.all isNameChar

instance (name : String) : Decidable (IsPrototypeName name) :=
  inferInstanceAs (Decidable (_ ∧ name.toList.all isNameChar = true))

/-- The name of a prototype is written in characters of names. -/
theorem IsPrototypeName.isNameChar {name : String} (h : IsPrototypeName name) :
    ∀ c ∈ name.toList, isNameChar c :=
  List.all_eq_true.mp h.2

/-- Whether source text can show what a node itself holds: a literal that has a form, an expression
on one line, a prototype of a proper name. -/
def Node.IsReadable : Node → Prop
  | .scalar literal => literal.isRenderable
  | .expression text => '\n' ∉ text.toList
  | .reference prototype _ => IsPrototypeName prototype
  | .object _ | .directives _ => True

instance : DecidablePred Node.IsReadable
  | .scalar literal => inferInstanceAs (Decidable (literal.isRenderable = true))
  | .expression text => inferInstanceAs (Decidable ('\n' ∉ text.toList))
  | .reference prototype _ => inferInstanceAs (Decidable (IsPrototypeName prototype))
  | .object _ | .directives _ => inferInstanceAs (Decidable True)

namespace SourceText

/-- What stands behind an equals sign on one line. -/
inductive Inline
  | literal (value : Literal)
  | expression (text : String)
  | name (prototype : String)

/-- What a statement is about. -/
inductive Target
  | property (key : String)
  | directive (name : String)
  /-- A property of the directive that owns it. -/
  | entry (owner key : String)

/-- What a statement says about its target. -/
inductive Content
  | inline (value : Inline)
  /-- An instance of a prototype with the statements that override its properties. -/
  | extended (prototype : String) (body : List (Target × Content))
  | block (body : List (Target × Content))

/-- A sequence of statements. -/
abbrev Body := List (Target × Content)

mutual

/-- What the statement for a node says. -/
def nodeContent : Node → Content
  | .scalar literal => .inline (.literal literal)
  | .expression text => .inline (.expression text)
  | .reference prototype overrides =>
    if overrides.isEmpty then .inline (.name prototype)
    else .extended prototype (bodyStatements overrides)
  | .object properties => .block (bodyStatements properties)
  | .directives entries => .block (directiveStatements entries)

/-- The statements for the properties in a block. -/
def bodyStatements : List (String × Node) → Body
  | [] => []
  | (_, .directives entries) :: rest => directiveStatements entries ++ bodyStatements rest
  | (key, node) :: rest => (.property key, nodeContent node) :: bodyStatements rest

/-- The statements for directives. -/
def directiveStatements : List (String × Node) → Body
  | [] => []
  | (name, .object properties) :: rest =>
    (if isFlat properties then entryStatements name properties
      else [(.directive name, .block (bodyStatements properties))]) ++ directiveStatements rest
  | (name, value) :: rest => (.directive name, nodeContent value) :: directiveStatements rest

/-- The statements for the properties of a directive that is written as one statement for each. -/
def entryStatements (owner : String) : List (String × Node) → Body
  | [] => []
  | (key, node) :: rest => (.entry owner key, nodeContent node) :: entryStatements owner rest

end

/-- The text of a literal that has one. -/
def literalText : Literal → String
  | .null => "null"
  | .bool value => if value then "true" else "false"
  | .integer value => toString value.toInt
  | .float value => formatFloat value
  | .string value => quoteString value

namespace Inline

/-- The text behind the equals sign. -/
def text : Inline → String
  | literal value => literalText value
  | expression text => "$\x7b" ++ text ++ "\x7d"
  | name prototype => prototype

end Inline

namespace Target

/-- The text before the equals sign or the brace. -/
def text : Target → String
  | property key => formatKey key
  | directive name => "@" ++ formatKey name
  | entry owner key => "@" ++ formatKey owner ++ "." ++ formatKey key

end Target

/-- The indentation of a line. -/
def pad (indent : String) (depth : Nat) : List Char :=
  (String.join (List.replicate depth indent)).toList

/-- The characters that open a block, up to the end of the line. -/
def opening : List Char := [' ', '\x7b', '\n']

/-- The line that closes a block, without its indentation. -/
def closing : List Char := ['\x7d', '\n']

/-- The characters before a value. -/
def equals : List Char := [' ', '=', ' ']

mutual

/-- The characters of a statement after its target. -/
def contentChars (indent : String) (depth : Nat) : Content → List Char
  | .inline value => equals ++ value.text.toList ++ ['\n']
  | .extended prototype body => equals ++ prototype.toList ++ opening ++
      bodyChars indent (depth + 1) body ++ pad indent depth ++ closing
  | .block body => opening ++ bodyChars indent (depth + 1) body ++ pad indent depth ++ closing

/-- The characters of a sequence of statements. -/
def bodyChars (indent : String) (depth : Nat) : List (Target × Content) → List Char
  | [] => []
  | (target, content) :: rest =>
    pad indent depth ++ target.text.toList ++ contentChars indent depth content ++
      bodyChars indent depth rest

end

section Equations

variable {indent : String} {depth : Nat}

/-- The characters of statements one after the other are those of each of them. -/
theorem bodyChars_append (left right : Body) : bodyChars indent depth (left ++ right) =
    bodyChars indent depth left ++ bodyChars indent depth right := by
  induction left with
  | nil => rfl
  | cons statement left ih =>
    obtain ⟨target, content⟩ := statement
    rw [List.cons_append, bodyChars, ih, bodyChars, List.append_assoc _ (bodyChars _ _ left)]

/-- A single statement is written as its indentation, its target and what it says. -/
theorem bodyChars_singleton (target : Target) (content : Content) :
    bodyChars indent depth [(target, content)] =
      pad indent depth ++ target.text.toList ++ contentChars indent depth content := by
  rw [bodyChars, bodyChars, List.append_nil]

end Equations

/-- Whether rendering succeeds and lays out to the given characters. -/
def Writes (indent : String) (lines : Except Fault (List Line)) (chars : List Char) : Prop :=
  ∃ written, lines = .ok written ∧ (layout indent written).toList = chars

section Writes

variable {indent : String} {depth : Nat}

/-- The first line is laid out with its indentation and a line feed. -/
theorem toList_layout_cons (line : Line) (lines : List Line) :
    (layout indent (line :: lines)).toList =
      pad indent line.depth ++ line.text.toList ++ '\n' :: (layout indent lines).toList := by
  simp [layout, Line.layout, pad]

/-- Lines are laid out one after the other. -/
theorem toList_layout_append (left right : List Line) :
    (layout indent (left ++ right)).toList =
      (layout indent left).toList ++ (layout indent right).toList := by
  simp [layout]

/-- Rendering no lines writes nothing. -/
theorem Writes.nil : Writes indent (.ok []) [] :=
  ⟨[], rfl, rfl⟩

/-- A line is written with its indentation and a line feed. -/
theorem Writes.line (text : String) :
    Writes indent (.ok [⟨depth, text⟩]) (pad indent depth ++ text.toList ++ ['\n']) :=
  ⟨_, rfl, by rw [toList_layout_cons]; rfl⟩

/-- Rendering lines and then others writes their characters one after the other. -/
theorem Writes.append {first others : Except Fault (List Line)} {left right : List Char}
    (hfirst : Writes indent first left) (hothers : Writes indent others right) :
    Writes indent (do let lines ← first; let more ← others; return lines ++ more)
      (left ++ right) := by
  obtain ⟨lines, rfl, hlines⟩ := hfirst
  obtain ⟨more, rfl, hmore⟩ := hothers
  exact ⟨lines ++ more, rfl, by rw [toList_layout_append, hlines, hmore]⟩

/-- Rendering a header and a body writes the characters of the body between braces. -/
theorem Writes.block {body : Except Fault (List Line)} {chars : List Char}
    (h : Writes indent body chars) (header : String) :
    Writes indent (SourceText.block depth header <$> body)
      (pad indent depth ++ header.toList ++ opening ++ chars ++ pad indent depth ++ closing) := by
  obtain ⟨lines, rfl, hlines⟩ := h
  refine ⟨_, rfl, ?_⟩
  rw [SourceText.block, List.cons_append, toList_layout_cons, toList_layout_append, hlines,
    toList_layout_cons]
  simp [opening, closing, layout]

end Writes

/-- A literal that has a form in source text is written as its text. -/
theorem formatLiteral_of_isRenderable {literal : Literal} (h : literal.isRenderable)
    (path : PropertyPath) : formatLiteral path literal = .ok (literalText literal) := by
  unfold formatLiteral
  rw [if_pos h]
  rfl

/-- Properties are flat when there are some and none of them holds directives. -/
theorem isFlat_iff {properties : Keyed Node} : isFlat properties ↔
    properties ≠ [] ∧ ∀ entry ∈ properties, entry.2.kind ≠ .directives := by
  simp [isFlat]

section Kinds

variable {node : Node} {rest : List (String × Node)}

/-- A property that holds no directives is rendered under its key. -/
theorem bodyLines_property (h : node.kind ≠ .directives) (path : PropertyPath) (depth : Nat)
    (key : String) : bodyLines path depth ((key, node) :: rest) = (do
      let lines ← propertyLines (formatKey key) (path.child key) depth node
      let more ← bodyLines path depth rest
      return lines ++ more) := by
  cases node <;> first | rfl | exact absurd rfl h

/-- A property that holds no directives has one statement. -/
theorem bodyStatements_property (h : node.kind ≠ .directives) (key : String) :
    bodyStatements ((key, node) :: rest) =
      (.property key, nodeContent node) :: bodyStatements rest := by
  cases node <;> first | rfl | exact absurd rfl h

/-- A directive that is no object is rendered under its name. -/
theorem directiveLines_value (h : node.kind ≠ .object) (path : PropertyPath) (depth : Nat)
    (name : String) : directiveLines path depth ((name, node) :: rest) = (do
      let lines ← propertyLines ("@" ++ formatKey name) (path.child ("@" ++ name)) depth node
      let more ← directiveLines path depth rest
      return lines ++ more) := by
  cases node <;> first | rfl | exact absurd rfl h

/-- A directive that is no object has one statement. -/
theorem directiveStatements_value (h : node.kind ≠ .object) (name : String) :
    directiveStatements ((name, node) :: rest) =
      (.directive name, nodeContent node) :: directiveStatements rest := by
  cases node <;> first | rfl | exact absurd rfl h

end Kinds

/-- Whether rendering a node, or its children in any of the ways that children are rendered, writes
out the statements for them. -/
structure WritesStatements (indent : String) (node : Node) : Prop where
  property : ∀ key path depth, Writes indent (propertyLines key path depth node)
    (pad indent depth ++ key.toList ++ contentChars indent depth (nodeContent node))
  body : ∀ path depth, Writes indent (bodyLines path depth node.children)
    (bodyChars indent depth (bodyStatements node.children))
  directives : ∀ path depth, Writes indent (directiveLines path depth node.children)
    (bodyChars indent depth (directiveStatements node.children))
  entries : ∀ owner path depth,
    Writes indent (flatLines ("@" ++ formatKey owner) path depth node.children)
      (bodyChars indent depth (entryStatements owner node.children))

section Entries

variable {indent : String} {entries : List (String × Node)}

/-- Rendering properties writes out their statements when rendering the nodes under them does. -/
theorem writes_bodyLines (h : ∀ entry ∈ entries, WritesStatements indent entry.2)
    (path : PropertyPath) (depth : Nat) : Writes indent (bodyLines path depth entries)
      (bodyChars indent depth (bodyStatements entries)) := by
  induction entries with
  | nil => exact Writes.nil
  | cons entry rest ih =>
    obtain ⟨key, node⟩ := entry
    obtain ⟨hnode, hrest⟩ := List.forall_mem_cons.mp h
    by_cases hkind : node.kind = .directives
    · cases node with
      | directives entries =>
        rw [bodyLines, bodyStatements, bodyChars_append]
        exact (hnode.directives path depth).append (ih hrest)
      | scalar _ | expression _ | reference _ _ | object _ => cases hkind
    · rw [bodyLines_property hkind, bodyStatements_property hkind, bodyChars]
      exact (hnode.property _ _ depth).append (ih hrest)

/-- Rendering flattened properties writes out their statements when rendering the nodes under them
does. -/
theorem writes_flatLines (h : ∀ entry ∈ entries, WritesStatements indent entry.2) (owner : String)
    (path : PropertyPath) (depth : Nat) :
    Writes indent (flatLines ("@" ++ formatKey owner) path depth entries)
      (bodyChars indent depth (entryStatements owner entries)) := by
  induction entries with
  | nil => exact Writes.nil
  | cons entry rest ih =>
    obtain ⟨key, node⟩ := entry
    obtain ⟨hnode, hrest⟩ := List.forall_mem_cons.mp h
    rw [flatLines, entryStatements, bodyChars]
    exact (hnode.property _ _ depth).append (ih hrest)

/-- Rendering directives writes out their statements when rendering the nodes under them does. -/
theorem writes_directiveLines (h : ∀ entry ∈ entries, WritesStatements indent entry.2)
    (path : PropertyPath) (depth : Nat) : Writes indent (directiveLines path depth entries)
      (bodyChars indent depth (directiveStatements entries)) := by
  induction entries with
  | nil => exact Writes.nil
  | cons entry rest ih =>
    obtain ⟨name, node⟩ := entry
    obtain ⟨hnode, hrest⟩ := List.forall_mem_cons.mp h
    by_cases hkind : node.kind = .object
    · cases node with
      | object properties =>
        rw [directiveLines, directiveStatements, bodyChars_append]
        split
        · exact (hnode.entries name _ depth).append (ih hrest)
        · rw [bodyChars_singleton]
          exact (hnode.property _ _ depth).append (ih hrest)
      | scalar _ | expression _ | reference _ _ | directives _ => cases hkind
    · rw [directiveLines_value hkind, directiveStatements_value hkind, bodyChars]
      exact (hnode.property _ _ depth).append (ih hrest)

end Entries

/-- Rendering a readable node writes out the statements for it. -/
theorem writesStatements (indent : String) {node : Node} (h : node.Everywhere Node.IsReadable) :
    WritesStatements indent node := by
  refine h.induction fun node hhere hchildren => ?_
  refine ⟨fun key path depth => ?_, writes_bodyLines hchildren, writes_directiveLines hchildren,
    writes_flatLines hchildren⟩
  cases node with
  | scalar literal =>
    have hline : propertyLines key path depth (.scalar literal) =
        .ok [⟨depth, key ++ " = " ++ literalText literal⟩] := by
      rw [propertyLines, formatLiteral_of_isRenderable hhere]
      rfl
    simpa [hline, nodeContent, contentChars, Inline.text, equals] using
      Writes.line (key ++ " = " ++ literalText literal)
  | expression text =>
    simpa [propertyLines, nodeContent, contentChars, Inline.text, equals] using
      Writes.line (key ++ " = $\x7b" ++ text ++ "\x7d")
  | reference prototype overrides =>
    have hbody : Writes indent (bodyLines path (depth + 1) overrides)
        (bodyChars indent (depth + 1) (bodyStatements overrides)) :=
      writes_bodyLines hchildren path (depth + 1)
    cases overrides with
    | nil =>
      simpa [propertyLines, nodeContent, contentChars, Inline.text, equals] using
        Writes.line (key ++ " = " ++ prototype)
    | cons entry rest =>
      simpa [propertyLines, nodeContent, contentChars, equals] using
        hbody.block (key ++ " = " ++ prototype)
  | object properties =>
    have hbody : Writes indent (bodyLines path (depth + 1) properties)
        (bodyChars indent (depth + 1) (bodyStatements properties)) :=
      writes_bodyLines hchildren path (depth + 1)
    simpa [propertyLines, nodeContent, contentChars] using hbody.block key
  | directives entries =>
    have hbody : Writes indent (directiveLines path (depth + 1) entries)
        (bodyChars indent (depth + 1) (directiveStatements entries)) :=
      writes_directiveLines hchildren path (depth + 1)
    simpa [propertyLines, nodeContent, contentChars] using hbody.block key

/-- The characters of a prototype definition after the name of the prototype. -/
def definitionChars (indent : String) : Node → List Char
  | .reference parent overrides => (" < prototype(" ++ parent ++ ")").toList ++ opening ++
      bodyChars indent 1 (bodyStatements overrides) ++ closing
  | node => contentChars indent 0 (nodeContent node)

/-- Rendering a definition writes out its header and what the node at its root determines. -/
theorem writes_prototypeLines (indent name : String) {node : Node}
    (h : node.Everywhere Node.IsReadable) : Writes indent (prototypeLines name node)
      (("prototype(" ++ name ++ ")").toList ++ definitionChars indent node) := by
  have hwrites := writesStatements indent h
  have hproperty := hwrites.property ("prototype(" ++ name ++ ")") (.ofPrototype name) 0
  have hpad : pad indent 0 = [] := by simp [pad]
  rw [hpad, List.nil_append] at hproperty
  cases node with
  | reference parent overrides =>
    have hblock : Writes indent (block 0 ("prototype(" ++ name ++ ")" ++
        (" < prototype(" ++ parent ++ ")")) <$> bodyLines (.ofPrototype name) 1 overrides)
        (pad indent 0 ++ _ ++ opening ++ bodyChars indent 1 (bodyStatements overrides) ++
          pad indent 0 ++ closing) := (hwrites.body (.ofPrototype name) 1).block _
    rw [hpad, List.nil_append, List.append_nil, String.toList_append] at hblock
    simpa only [prototypeLines, definitionChars, String.append_assoc, List.append_assoc]
      using hblock
  | scalar _ | expression _ | object _ | directives _ => exact hproperty

/-- Rendering the paths writes out the statements for them. -/
theorem writes_pathLines (indent : String) {paths : Keyed Node}
    (h : EverywhereAmong Node.IsReadable paths) :
    Writes indent (pathLines paths) (bodyChars indent 0 (bodyStatements paths)) :=
  writes_bodyLines (fun entry hentry =>
    writesStatements indent (everywhereAmong_iff.mp h entry hentry)) _ 0

end SourceText

end ComponentAtlas

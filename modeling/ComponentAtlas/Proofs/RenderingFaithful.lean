import ComponentAtlas.Proofs.StatementReading
import ComponentAtlas.Proofs.StatementText

/-!
# Faithfulness of rendering

The source text of a prototype or of the rendering paths determines what it was written for, up to
directives that are empty: the text determines the statements, and the statements are read back as
the node.
-/

namespace ComponentAtlas

/-- What a definition means: directives at its root are those of an object without properties. -/
def Node.asDefinition : Node → Node
  | .directives entries => .object [(metaKey, .directives entries)]
  | node => node

/-- Whether source text can show a node as the definition of a prototype. -/
structure Node.IsDefinition (name : String) (node : Node) : Prop where
  valid : node.firstFault? (.ofPrototype name) = none
  readable : node.Everywhere Node.IsReadable
  distinct : node.DistinctKeys

/-- Whether source text can show nodes as the rendering paths. -/
structure IsPaths (paths : Keyed Node) : Prop where
  valid : firstFaultAmong? .ofPaths paths = none
  readable : EverywhereAmong Node.IsReadable paths
  distinct : DistinctKeysAmong paths

namespace SourceText

/-- Statements one after the other are readable when all of them are. -/
theorem bodyIsReadable_append {left right : Body} :
    BodyIsReadable (left ++ right) ↔ BodyIsReadable left ∧ BodyIsReadable right := by
  induction left with
  | nil => exact ⟨fun h => ⟨trivial, h⟩, And.right⟩
  | cons statement left ih =>
    obtain ⟨target, content⟩ := statement
    rw [List.cons_append, BodyIsReadable, ih, BodyIsReadable, and_assoc]

/-- Whether the statements for a node, and those for its children in each of their forms, hold
nothing but values and names that have a form in source text. -/
structure StatementsReadable (node : Node) : Prop where
  content : (nodeContent node).IsReadable
  body : BodyIsReadable (bodyStatements node.children)
  directives : BodyIsReadable (directiveStatements node.children)
  entries : ∀ owner, BodyIsReadable (entryStatements owner node.children)

section Entries

variable {entries : Keyed Node}

/-- The statements of properties are readable when those of the nodes under them are. -/
theorem bodyStatements_readable (h : ∀ entry ∈ entries, StatementsReadable entry.2) :
    BodyIsReadable (bodyStatements entries) := by
  induction entries with
  | nil => trivial
  | cons entry rest ih =>
    obtain ⟨key, node⟩ := entry
    obtain ⟨hnode, hrest⟩ := List.forall_mem_cons.mp h
    cases node with
    | directives entries => exact bodyIsReadable_append.mpr ⟨hnode.directives, ih hrest⟩
    | scalar _ | expression _ | reference _ _ | object _ => exact ⟨hnode.content, ih hrest⟩

/-- The statements of flattened properties are readable when those of the nodes under them are. -/
theorem entryStatements_readable (h : ∀ entry ∈ entries, StatementsReadable entry.2)
    (owner : String) : BodyIsReadable (entryStatements owner entries) := by
  induction entries with
  | nil => trivial
  | cons entry rest ih =>
    obtain ⟨hnode, hrest⟩ := List.forall_mem_cons.mp h
    exact ⟨hnode.content, ih hrest⟩

/-- The statements of directives are readable when those of the nodes under them are. -/
theorem directiveStatements_readable (h : ∀ entry ∈ entries, StatementsReadable entry.2) :
    BodyIsReadable (directiveStatements entries) := by
  induction entries with
  | nil => trivial
  | cons entry rest ih =>
    obtain ⟨name, node⟩ := entry
    obtain ⟨hnode, hrest⟩ := List.forall_mem_cons.mp h
    cases node with
    | object properties =>
      rw [directiveStatements, bodyIsReadable_append]
      refine ⟨?_, ih hrest⟩
      split
      · exact hnode.entries name
      · exact ⟨hnode.content, trivial⟩
    | scalar _ | expression _ | reference _ _ | directives _ => exact ⟨hnode.content, ih hrest⟩

end Entries

/-- The statements for a readable node are readable. -/
theorem statementsReadable {node : Node} (h : node.Everywhere Node.IsReadable) :
    StatementsReadable node := by
  refine h.induction fun node hhere hchildren => ?_
  have hbody := bodyStatements_readable hchildren
  have hdirectives := directiveStatements_readable hchildren
  refine ⟨?_, hbody, hdirectives, entryStatements_readable hchildren⟩
  cases node with
  | scalar _ | expression _ => exact hhere
  | reference prototype overrides =>
    rw [nodeContent]
    split
    · exact hhere
    · exact ⟨hhere, hbody⟩
  | object properties => exact hbody
  | directives entries => exact hdirectives

/-- The statement for the root of a definition is read back as what the definition means. -/
theorem contentNode_nodeContent {name : String} {node : Node} (h : node.IsDefinition name) :
    contentNode false (nodeContent node) = node.asDefinition.prune := by
  have hread := readsBack ((Node.firstFault?_eq_none _).mp h.valid) h.distinct
  cases node with
  | directives entries =>
    have hdirectives : readBody (directiveStatements entries ++ []) =
        (pruneDirectives entries, []) := hread.directives [] rfl
    rw [List.append_nil] at hdirectives
    rw [nodeContent, contentNode, hdirectives]
    cases entries with
    | nil => rfl
    | cons entry rest => rfl
  | scalar _ | expression _ | reference _ _ | object _ => exact hread.of_kind (by simp [Node.kind])

/-- A node of the kind of references refers to some prototype. -/
theorem eq_reference_of_kind {node : Node} (h : node.kind = .reference) :
    ∃ parent overrides, node = .reference parent overrides := by
  cases node with
  | reference parent overrides => exact ⟨parent, overrides, rfl⟩
  | scalar _ | expression _ | object _ | directives _ => cases h

/-- A definition that extends no prototype is written as what its node holds. -/
theorem definitionChars_of_kind {node : Node} (h : node.kind ≠ .reference) (indent : String) :
    definitionChars indent node = contentChars indent 0 (nodeContent node) := by
  cases node <;> first | rfl | exact absurd rfl h

/-- The parent of a definition is written between parentheses. -/
theorem toList_parent (parent : String) : (" < prototype(" ++ parent ++ ")").toList =
    " < prototype(".toList ++ (parent.toList ++ [')']) := by
  rw [String.toList_append, String.toList_append, List.append_assoc]
  rfl

/-- Only definitions that extend another prototype have an angle bracket after their header. -/
theorem definitionChars_ne {indent parent : String} {overrides : List (String × Node)}
    {content : Content} :
    definitionChars indent (.reference parent overrides) ≠ contentChars indent 0 content := by
  rw [definitionChars, toList_parent]
  cases content <;> simp [contentChars, equals, opening]

/-- The text of a definition tells whether it extends another prototype. It determines the parent
and the statements of one that does, and what is said about any other. -/
theorem definitionChars_inj {indent : String} (hindent : ∀ c ∈ indent.toList, isIndentChar c)
    {left right : Node} (hleft : left.Everywhere Node.IsReadable)
    (hright : right.Everywhere Node.IsReadable)
    (h : definitionChars indent left = definitionChars indent right) :
    (∃ parent overrides overrides', left = .reference parent overrides ∧
      right = .reference parent overrides' ∧
      bodyStatements overrides = bodyStatements overrides') ∨
    left.kind ≠ .reference ∧ right.kind ≠ .reference ∧ nodeContent left = nodeContent right := by
  have hreadleft := statementsReadable hleft
  have hreadright := statementsReadable hright
  by_cases hkleft : left.kind = .reference <;> by_cases hkright : right.kind = .reference
  · obtain ⟨parent, overrides, rfl⟩ := eq_reference_of_kind hkleft
    obtain ⟨parent', overrides', rfl⟩ := eq_reference_of_kind hkright
    simp only [definitionChars, toList_parent, List.append_assoc] at h
    obtain ⟨hparent, hrest⟩ := word_append_inj (IsPrototypeName.isNameChar hleft.here)
      (IsPrototypeName.isNameChar hright.here)
      (startsOutside_cons.mpr rfl) (startsOutside_cons.mpr rfl) (List.append_cancel_left h)
    have hbody := List.append_cancel_left (show ([')'] ++ opening) ++ _ = _ ++ _ from hrest)
    have hclosing : FollowsBody closing := by
      simpa [pad] using followsBody_closing hindent 0 []
    obtain ⟨hstatements, -⟩ := bodyChars_append_inj hindent _ _ hreadleft.body hreadright.body 1 _ _
      hclosing hclosing hbody
    rw [String.toList_inj.mp hparent]
    exact Or.inl ⟨parent', overrides, overrides', rfl, rfl, hstatements⟩
  · obtain ⟨parent, overrides, rfl⟩ := eq_reference_of_kind hkleft
    rw [definitionChars_of_kind hkright] at h
    exact absurd h definitionChars_ne
  · obtain ⟨parent, overrides, rfl⟩ := eq_reference_of_kind hkright
    rw [definitionChars_of_kind hkleft] at h
    exact absurd h.symm definitionChars_ne
  · right
    refine ⟨hkleft, hkright, ?_⟩
    rw [definitionChars_of_kind hkleft, definitionChars_of_kind hkright] at h
    exact (contentChars_append_inj hindent _ _ hreadleft.content hreadright.content 0 [] []
      (by rw [h])).1

/-- Lines that are written out are laid out to a text. -/
theorem Writes.exists_text {indent : String} {lines : Except Fault (List Line)}
    {chars : List Char} (h : Writes indent lines chars) :
    ∃ text, layout indent <$> lines = .ok text ∧ text.toList = chars := by
  obtain ⟨written, rfl, rfl⟩ := h
  exact ⟨_, rfl, rfl⟩

/-- Definitions with the same characters after their header are the same, up to empty
directives. -/
theorem prune_eq_of_definitionChars {indent : String}
    (hindent : ∀ c ∈ indent.toList, isIndentChar c) {name : String} {left right : Node}
    (hleft : left.IsDefinition name) (hright : right.IsDefinition name)
    (h : definitionChars indent left = definitionChars indent right) :
    left.asDefinition.prune = right.asDefinition.prune := by
  rcases definitionChars_inj hindent hleft.readable hright.readable h with
    ⟨parent, overrides, overrides', rfl, rfl, hbody⟩ | ⟨-, -, hcontent⟩
  · have hnamed : ∀ {node : Node}, node.IsDefinition name → WellNamed node.children := fun h =>
      (Node.firstFault?_eq_none _).mp h.valid
    have hprune := close_readBody (hnamed hleft) hleft.distinct.children
    have hprune' := close_readBody (hnamed hright) hright.distinct.children
    change close (readBody (bodyStatements overrides)) = pruneProperties overrides at hprune
    change close (readBody (bodyStatements overrides')) = pruneProperties overrides' at hprune'
    rw [hbody, hprune'] at hprune
    exact congrArg (Node.reference parent) hprune.symm
  · rw [← contentNode_nodeContent hleft, hcontent, contentNode_nodeContent hright]

/-- Paths with the same characters are the same, up to empty directives. -/
theorem prune_eq_of_bodyChars {indent : String} (hindent : ∀ c ∈ indent.toList, isIndentChar c)
    {left right : Keyed Node} (hleft : IsPaths left) (hright : IsPaths right)
    (h : bodyChars indent 0 (bodyStatements left) = bodyChars indent 0 (bodyStatements right)) :
    pruneProperties left = pruneProperties right := by
  have hreadable : ∀ {paths : Keyed Node}, IsPaths paths → BodyIsReadable (bodyStatements paths) :=
    fun h => bodyStatements_readable fun entry hentry =>
      statementsReadable (everywhereAmong_iff.mp h.readable entry hentry)
  have hnamed : ∀ {paths : Keyed Node}, IsPaths paths → WellNamed paths := fun h =>
    (firstFaultAmong?_eq_none _).mp h.valid
  obtain ⟨hbody, -⟩ := bodyChars_append_inj hindent _ _ (hreadable hleft) (hreadable hright) 0 [] []
    followsBody_nil followsBody_nil (by rw [h])
  rw [← close_readBody (hnamed hleft) hleft.distinct, hbody,
    close_readBody (hnamed hright) hright.distinct]

end SourceText

open SourceText

/-- Rendering a definition or the rendering paths gives a text, and the text determines what it was
written for, up to empty directives. -/
theorem render_faithful {indent : String} (hindent : ∀ c ∈ indent.toList, c = ' ' ∨ c = '\t') :
    (∀ (name : String) (left right : Node), left.IsDefinition name → right.IsDefinition name →
      ∃ textLeft textRight, renderPrototype indent name left = .ok textLeft ∧
        renderPrototype indent name right = .ok textRight ∧
        (textLeft = textRight → left.asDefinition.prune = right.asDefinition.prune)) ∧
    ∀ left right : Keyed Node, IsPaths left → IsPaths right →
      ∃ textLeft textRight, renderPaths indent left = .ok textLeft ∧
        renderPaths indent right = .ok textRight ∧
        (textLeft = textRight → pruneProperties left = pruneProperties right) := by
  have hblank : ∀ c ∈ indent.toList, isIndentChar c := fun c hc => by
    simpa [isIndentChar] using hindent c hc
  constructor
  · intro name left right hleft hright
    obtain ⟨textLeft, hrenderLeft, hcharsLeft⟩ :=
      (writes_prototypeLines indent name hleft.readable).exists_text
    obtain ⟨textRight, hrenderRight, hcharsRight⟩ :=
      (writes_prototypeLines indent name hright.readable).exists_text
    refine ⟨textLeft, textRight, hrenderLeft, hrenderRight, fun heq => ?_⟩
    rw [heq, hcharsRight] at hcharsLeft
    exact prune_eq_of_definitionChars hblank hleft hright (List.append_cancel_left hcharsLeft).symm
  · intro left right hleft hright
    obtain ⟨textLeft, hrenderLeft, hcharsLeft⟩ :=
      (writes_pathLines indent hleft.readable).exists_text
    obtain ⟨textRight, hrenderRight, hcharsRight⟩ :=
      (writes_pathLines indent hright.readable).exists_text
    refine ⟨textLeft, textRight, hrenderLeft, hrenderRight, fun heq => ?_⟩
    rw [heq, hcharsRight] at hcharsLeft
    exact prune_eq_of_bodyChars hblank hleft hright hcharsLeft.symm

/-- A button with directives and an icon, with and without empty directives, as the definition of a
prototype and among the paths. -/
theorem render_faithful_of_button :
    let full : Node := .object
      [("label", .scalar (.string "it's\n\\")), ("odd \"key\"", .expression "a \x7d"),
        ("icon", .reference "Site:Icon"
          [("size", .scalar (.integer 12)), ("__meta", .directives [])]),
        ("__meta", .directives [("if", .object [("visible", .scalar (.bool true))])])]
    let plain : Node := .object
      [("label", .scalar (.string "it's\n\\")), ("odd \"key\"", .expression "a \x7d"),
        ("icon", .reference "Site:Icon" [("size", .scalar (.integer 12))]),
        ("__meta", .directives [("if", .object [("visible", .scalar (.bool true))])])]
    (∀ c ∈ "\t".toList, c = ' ' ∨ c = '\t') ∧
      full.IsDefinition "Site:Button" ∧ plain.IsDefinition "Site:Button" ∧
      IsPaths [("page", full)] ∧ IsPaths [("page", plain)] ∧
      full.asDefinition.prune = plain.asDefinition.prune ∧
      pruneProperties [("page", full)] = pruneProperties [("page", plain)] := by
  intro full plain
  have hindent : ∀ c ∈ "\t".toList, c = ' ' ∨ c = '\t' := by simp
  have hfull : full.IsDefinition "Site:Button" := ⟨rfl, by decide, by decide⟩
  have hplain : plain.IsDefinition "Site:Button" := ⟨rfl, by decide, by decide⟩
  have hfullPaths : IsPaths [("page", full)] := ⟨rfl, by decide, by decide⟩
  have hplainPaths : IsPaths [("page", plain)] := ⟨rfl, by decide, by decide⟩
  obtain ⟨text, text', htext, htext', hdefinition⟩ :=
    (render_faithful hindent).1 "Site:Button" full plain hfull hplain
  obtain ⟨paths, paths', hpaths, hpaths', hproperties⟩ :=
    (render_faithful hindent).2 _ _ hfullPaths hplainPaths
  have hsame : renderPrototype "\t" "Site:Button" full =
      renderPrototype "\t" "Site:Button" plain := rfl
  have hsamePaths : renderPaths "\t" [("page", full)] = renderPaths "\t" [("page", plain)] := rfl
  exact ⟨hindent, hfull, hplain, hfullPaths, hplainPaths,
    hdefinition (Except.ok.inj (htext.symm.trans (hsame.trans htext'))),
    hproperties (Except.ok.inj (hpaths.symm.trans (hsamePaths.trans hpaths')))⟩

end ComponentAtlas

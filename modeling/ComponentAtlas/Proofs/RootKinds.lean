import ComponentAtlas.Proofs.RenderingFaithful

/-!
# Kinds of roots in source text

Source text writes directives where they were recorded and does not write the key that holds them,
so directives at the root of a definition look like those of an object there. This is the only way
in which the text of a definition hides the kind of its root: a scalar, an expression and an
instance show in the characters after the header, and any property of an object shows among the
statements.
-/

namespace ComponentAtlas

/-- Whether a node holds directives, or is an object that holds nothing else. -/
def Node.HoldsOnlyDirectives : Node → Prop
  | .directives _ => True
  | .object properties => ∀ entry ∈ properties, entry.2.kind = .directives
  | .scalar _ | .expression _ | .reference _ _ => False

/-- Directives make up a definition exactly when an object that holds nothing else does. -/
theorem Node.isDefinition_object_meta {name : String} {entries : Keyed Node} :
    (Node.object [(metaKey, .directives entries)]).IsDefinition name ↔
      (Node.directives entries).IsDefinition name := by
  have hnamed : WellNamed [(metaKey, .directives entries)] ↔ WellNamed entries := by
    rw [wellNamed_cons]
    exact ⟨fun h => h.2.1, fun h => ⟨rfl, h, wellNamed_nil⟩⟩
  have hvalid :
      (Node.object [(metaKey, .directives entries)]).firstFault? (.ofPrototype name) = none ↔
        (Node.directives entries).firstFault? (.ofPrototype name) = none := by
    rw [Node.firstFault?_eq_none, Node.firstFault?_eq_none]
    exact hnamed
  constructor
  · rintro ⟨hfault, ⟨-, hreadable, -⟩, -, hdistinct, -⟩
    exact ⟨hvalid.mp hfault, hreadable, hdistinct⟩
  · rintro ⟨hfault, hreadable, hdistinct⟩
    refine ⟨hvalid.mpr hfault, ⟨trivial, hreadable, trivial⟩, ?_, hdistinct, trivial⟩
    exact List.nodup_singleton metaKey

/-- Source text can show a definition that holds no directives at all. -/
theorem Node.isDefinition_directives_nil {name : String} :
    (Node.directives []).IsDefinition name :=
  ⟨rfl, ⟨trivial, trivial⟩, List.nodup_nil, trivial⟩

/-- An object with nothing but directives is empty or keeps them under the reserved key. -/
theorem Node.IsDefinition.eq_nil_or_meta {name : String} {properties : Keyed Node}
    (h : (Node.object properties).IsDefinition name)
    (honly : (Node.object properties).HoldsOnlyDirectives) :
    properties = [] ∨ ∃ entries, properties = [(metaKey, .directives entries)] := by
  obtain ⟨hfits, -⟩ := (Node.firstFault?_eq_none _).mp h.valid
  have hkey : ∀ entry ∈ properties, entry.1 = metaKey := fun entry hentry =>
    (kind_eq_directives_iff (hfits entry hentry)).mp (honly entry hentry)
  match properties with
  | [] => exact Or.inl rfl
  | [(key, .directives entries)] =>
    obtain rfl : key = metaKey := hkey _ List.mem_cons_self
    exact Or.inr ⟨entries, rfl⟩
  | [(_, .scalar _)] | [(_, .expression _)] | [(_, .reference _ _)] | [(_, .object _)] =>
    cases honly _ List.mem_cons_self
  | (key, _) :: (key', _) :: _ =>
    obtain rfl : key = metaKey := hkey _ List.mem_cons_self
    obtain rfl : key' = metaKey := hkey _ (List.mem_cons_of_mem _ List.mem_cons_self)
    exact absurd List.mem_cons_self (Keyed.distinct_cons.mp h.distinct.children.1).1

namespace SourceText

/-- Directives at the root are written like those of an object that holds nothing else. -/
theorem prototypeLines_object_meta (name : String) (entries : Keyed Node) :
    prototypeLines name (.object [(metaKey, .directives entries)]) =
      prototypeLines name (.directives entries) := by
  have hbody : bodyLines (.ofPrototype name) 1 [(metaKey, .directives entries)] =
      directiveLines (.ofPrototype name) 1 entries := by
    rw [bodyLines]
    cases directiveLines (.ofPrototype name) 1 entries with
    | error fault => rfl
    | ok lines => exact congrArg Except.ok (List.append_nil lines)
  simp only [prototypeLines, propertyLines, hbody]

/-- A definition that holds only directives has a twin of another kind with the same source text,
whatever the indentation. -/
theorem exists_twin {name : String} {node : Node} (h : node.IsDefinition name)
    (honly : node.HoldsOnlyDirectives) :
    ∃ twin : Node, twin.IsDefinition name ∧ twin.kind ≠ node.kind ∧
      ∀ indent, renderPrototype indent name twin = renderPrototype indent name node := by
  cases node with
  | directives entries =>
    refine ⟨.object [(metaKey, .directives entries)], Node.isDefinition_object_meta.mpr h,
      by simp [Node.kind], fun indent => ?_⟩
    exact congrArg (layout indent <$> ·) (prototypeLines_object_meta name entries)
  | object properties =>
    rcases h.eq_nil_or_meta honly with rfl | ⟨entries, rfl⟩
    · exact ⟨.directives [], Node.isDefinition_directives_nil, by simp [Node.kind], fun _ => rfl⟩
    · refine ⟨.directives entries, Node.isDefinition_object_meta.mp h, by simp [Node.kind],
        fun indent => ?_⟩
      exact congrArg (layout indent <$> ·) (prototypeLines_object_meta name entries).symm
  | scalar _ | expression _ | reference _ _ => exact honly.elim

/-- Whether a statement is about a directive or a property of one. -/
def Target.IsDirective : Target → Prop
  | .property _ => False
  | .directive _ | .entry _ _ => True

/-- The statements of flattened directives are those of directives. -/
theorem entryStatements_isDirective (owner : String) (entries : Keyed Node) :
    ∀ statement ∈ entryStatements owner entries, statement.1.IsDirective := by
  induction entries with
  | nil => exact fun _ hmem => absurd hmem List.not_mem_nil
  | cons entry rest ih => exact List.forall_mem_cons.mpr ⟨trivial, ih⟩

/-- The statements for directives are about nothing else. -/
theorem directiveStatements_isDirective (entries : Keyed Node) :
    ∀ statement ∈ directiveStatements entries, statement.1.IsDirective := by
  induction entries with
  | nil => exact fun _ hmem => absurd hmem List.not_mem_nil
  | cons entry rest ih =>
    obtain ⟨name, node⟩ := entry
    by_cases hkind : node.kind = .object
    · cases node with
      | object properties =>
        rw [directiveStatements]
        refine List.forall_mem_append.mpr ⟨?_, ih⟩
        split
        · exact entryStatements_isDirective name properties
        · exact List.forall_mem_singleton.mpr trivial
      | scalar _ | expression _ | reference _ _ | directives _ => cases hkind
    · rw [directiveStatements_value hkind]
      exact List.forall_mem_cons.mpr ⟨trivial, ih⟩

/-- An object all of whose statements are about directives holds nothing else. -/
theorem holdsOnlyDirectives_of_statements {properties : Keyed Node}
    (h : ∀ statement ∈ bodyStatements properties, statement.1.IsDirective) :
    (Node.object properties).HoldsOnlyDirectives := by
  induction properties with
  | nil => exact fun _ hmem => absurd hmem List.not_mem_nil
  | cons entry rest ih =>
    obtain ⟨key, node⟩ := entry
    by_cases hkind : node.kind = .directives
    · cases node with
      | directives entries =>
        obtain ⟨-, hrest⟩ := List.forall_mem_append.mp h
        exact List.forall_mem_cons.mpr ⟨rfl, ih hrest⟩
      | scalar _ | expression _ | reference _ _ | object _ => cases hkind
    · rw [bodyStatements_property hkind] at h
      exact (h _ List.mem_cons_self).elim

/-- What is said about a root that is no instance shows its kind, unless it holds only
directives. -/
theorem kind_eq_of_nodeContent_eq {node other : Node} (hnode : node.kind ≠ .reference)
    (hother : other.kind ≠ .reference) (honly : ¬node.HoldsOnlyDirectives)
    (h : nodeContent other = nodeContent node) : other.kind = node.kind := by
  cases node with
  | directives _ => exact absurd trivial honly
  | reference _ _ => exact absurd rfl hnode
  | scalar _ =>
    cases other with
    | scalar _ => rfl
    | reference _ _ => exact absurd rfl hother
    | expression _ | object _ | directives _ => simp [nodeContent] at h
  | expression _ =>
    cases other with
    | expression _ => rfl
    | reference _ _ => exact absurd rfl hother
    | scalar _ | object _ | directives _ => simp [nodeContent] at h
  | object properties =>
    cases other with
    | object _ => rfl
    | reference _ _ => exact absurd rfl hother
    | scalar _ | expression _ => simp [nodeContent] at h
    | directives entries =>
      rw [nodeContent, nodeContent, Content.block.injEq] at h
      exact absurd (holdsOnlyDirectives_of_statements
        (h ▸ directiveStatements_isDirective entries)) honly

/-- The source text of a definition shows the kind of its root exactly when the root holds more than
directives: then no definition of another kind has the same text. -/
theorem root_kind_shown_iff {indent : String} (hindent : ∀ c ∈ indent.toList, c = ' ' ∨ c = '\t')
    {name : String} {node : Node} (h : node.IsDefinition name) :
    (∀ other : Node, other.IsDefinition name →
        renderPrototype indent name other = renderPrototype indent name node →
        other.kind = node.kind) ↔
      ¬node.HoldsOnlyDirectives := by
  constructor
  · intro hshown honly
    obtain ⟨twin, htwin, hkind, hrender⟩ := exists_twin h honly
    exact hkind (hshown twin htwin (hrender indent))
  · intro honly other hother hrender
    obtain ⟨text, htext, hchars⟩ := (writes_prototypeLines indent name h.readable).exists_text
    obtain ⟨text', htext', hchars'⟩ :=
      (writes_prototypeLines indent name hother.readable).exists_text
    obtain rfl : text' = text := Except.ok.inj (htext'.symm.trans (hrender.trans htext))
    have hdefinition := List.append_cancel_left (hchars'.symm.trans hchars)
    rcases definitionChars_inj (isIndentChar_of_blanks hindent) hother.readable h.readable
      hdefinition with ⟨parent, overrides, overrides', rfl, rfl, -⟩ | ⟨hkind', hkind, hcontent⟩
    · rfl
    · exact kind_eq_of_nodeContent_eq hkind hkind' honly hcontent

/-- An object with a property shows that it is one, although it also holds directives. -/
theorem root_kind_shown_iff_of_button :
    let button : Node := .object [("label", .scalar (.string "Click")),
      (metaKey, .directives [("if", .object [("visible", .expression "props.visible")])])]
    (∀ c ∈ "    ".toList, c = ' ' ∨ c = '\t') ∧ button.IsDefinition "Site:Button" ∧
      ∀ other : Node, other.IsDefinition "Site:Button" →
        renderPrototype "    " "Site:Button" other = renderPrototype "    " "Site:Button" button →
        other.kind = .object := by
  intro button
  have hindent : ∀ c ∈ "    ".toList, c = ' ' ∨ c = '\t' := by simp
  have hbutton : button.IsDefinition "Site:Button" := ⟨rfl, by decide, by decide⟩
  have honly : ¬button.HoldsOnlyDirectives := fun h => by cases h _ List.mem_cons_self
  exact ⟨hindent, hbutton, (root_kind_shown_iff hindent hbutton).mpr honly⟩

/-- Directives and an object that holds nothing else are both accepted as the definition of a
prototype and have the same source text. -/
theorem render_hides_root_kind :
    let directives : Node := .directives [("position", .scalar (.string "start"))]
    let object : Node := .object [(metaKey, directives)]
    let text := "prototype(X:Y) \x7b\n    @position = 'start'\n\x7d\n"
    Tree.validate { prototypes := [("X:Y", directives)] } = .ok () ∧
      Tree.validate { prototypes := [("X:Y", object)] } = .ok () ∧
      directives.IsDefinition "X:Y" ∧ object.IsDefinition "X:Y" ∧ directives.kind ≠ object.kind ∧
      renderPrototype "    " "X:Y" directives = .ok text ∧
      renderPrototype "    " "X:Y" object = .ok text := by
  intro directives object text
  have hdirectives : directives.IsDefinition "X:Y" := ⟨rfl, by decide, by decide⟩
  have hobject : object.IsDefinition "X:Y" := ⟨rfl, by decide, by decide⟩
  exact ⟨rfl, rfl, hdirectives, hobject, by decide, rfl, rfl⟩

end SourceText

end ComponentAtlas

import ComponentAtlas.Proofs.StatementText

/-!
# Nesting of source text

Source text can be read line by line with nothing but a level: a line that is a closing brace closes
one, a line that ends with an opening brace opens one, and every line is indented by its level. This
holds whatever braces stand in keys and values, because no line of a statement starts with a closing
brace and only the first line of a block ends with an opening one.
-/

namespace ComponentAtlas

/-- Whether no name among entries runs over a line. -/
def NamesOnOneLine (entries : Keyed Node) : Prop :=
  ∀ entry ∈ entries, '\n' ∉ entry.1.toList

instance (entries : Keyed Node) : Decidable (NamesOnOneLine entries) :=
  inferInstanceAs (Decidable (∀ entry ∈ entries, '\n' ∉ entry.1.toList))

/-- Whether a prototype name holds no line feed, no space and no brace. -/
def IsPlainName (name : String) : Prop :=
  ∀ c ∈ name.toList, c ≠ '\n' ∧ c ≠ ' ' ∧ c ≠ '\x7b' ∧ c ≠ '\x7d'

instance (name : String) : Decidable (IsPlainName name) :=
  List.decidableBAll _ name.toList

/-- Whether source text has a form for what a node itself holds, and no part of it runs over a
line. -/
def Node.KeepsLines : Node → Prop
  | .scalar (.string text) => '\n' ∉ text.toList
  | .scalar literal => literal.isRenderable
  | .expression text => '\n' ∉ text.toList
  | .reference prototype overrides => IsPlainName prototype ∧ NamesOnOneLine overrides
  | .object entries | .directives entries => NamesOnOneLine entries

instance : DecidablePred Node.KeepsLines
  | .scalar (.string text) => inferInstanceAs (Decidable ('\n' ∉ text.toList))
  | .scalar .null | .scalar (.bool _) | .scalar (.integer _) | .scalar (.float _) =>
    inferInstanceAs (Decidable (_ = true))
  | .expression text => inferInstanceAs (Decidable ('\n' ∉ text.toList))
  | .reference prototype overrides =>
    inferInstanceAs (Decidable (IsPlainName prototype ∧ NamesOnOneLine overrides))
  | .object entries | .directives entries => inferInstanceAs (Decidable (NamesOnOneLine entries))

/-- The names of the children of such a node run over no line. -/
theorem Node.KeepsLines.names {node : Node} (h : node.KeepsLines) :
    NamesOnOneLine node.children := by
  cases node with
  | scalar _ | expression _ => exact fun _ hentry => absurd hentry List.not_mem_nil
  | reference _ _ => exact h.2
  | object _ | directives _ => exact h

namespace SourceText

/-- The lines of a text; the last one may end with the text instead of a line feed. -/
def textLines (text : String) : List (List Char) :=
  let pieces := text.toList.splitOn '\n'
  if pieces.getLast? = some [] then pieces.dropLast else pieces

/-- A line without its leading blanks. -/
def unindented (line : List Char) : List Char :=
  line.dropWhile isIndentChar

/-- Whether a line closes a level: behind its blanks it is a closing brace. -/
def Closes (line : List Char) : Prop :=
  unindented line = ['\x7d']

/-- Whether a line opens a level: it ends with a space and an opening brace. -/
def Opens (line : List Char) : Prop :=
  [' ', '\x7b'] <:+ line

/-- Whether a line starts with the indentation of a level and nothing blank follows that. -/
def IndentedBy (indent : String) (level : Nat) (line : List Char) : Prop :=
  ∃ content, line = pad indent level ++ content ∧ StartsOutside isIndentChar content

/-- The characters of a line with its indentation. -/
def Line.chars (indent : String) (line : Line) : List Char :=
  pad indent line.depth ++ line.text.toList

/-- Whether lines that are read from a level on never close more levels than are open, leave none
open at the end, and are each indented by its level: by the one that is left for a line that closes
one. -/
inductive WellNested (indent : String) : Nat → List (List Char) → Prop
  | nil : WellNested indent 0 []
  | closing {level line rest} : Closes line → IndentedBy indent level line →
      WellNested indent level rest → WellNested indent (level + 1) (line :: rest)
  | opening {level line rest} : ¬Closes line → Opens line → IndentedBy indent level line →
      WellNested indent (level + 1) rest → WellNested indent level (line :: rest)
  | plain {level line rest} : ¬Closes line → ¬Opens line → IndentedBy indent level line →
      WellNested indent level rest → WellNested indent level (line :: rest)

/-- Whether a line of a statement can start with a text. -/
structure StartsLine (text : String) : Prop where
  oneLine : '\n' ∉ text.toList
  start : ∃ c rest, text.toList = c :: rest ∧ isIndentChar c = false ∧ c ≠ '\x7d'

/-- Whether lines are statements at a depth, with the statements in their blocks one deeper. -/
inductive IsBody : Nat → List Line → Prop
  | nil {depth} : IsBody depth []
  | line {depth text rest} : StartsLine text → text.toList.getLast? ≠ some '\x7b' →
      IsBody depth rest → IsBody depth (⟨depth, text⟩ :: rest)
  | block {depth header body rest} : StartsLine header → IsBody (depth + 1) body →
      IsBody depth rest → IsBody depth (block depth header body ++ rest)

/-- What starts a line starts with no blank. -/
theorem StartsLine.startsOutside {text : String} (h : StartsLine text) :
    StartsOutside isIndentChar text.toList := by
  obtain ⟨c, rest, htext, hblank, -⟩ := h.start
  rw [htext]
  exact startsOutside_cons.mpr hblank

/-- What starts a line goes on with any text that runs over no line. -/
theorem StartsLine.append {text : String} (h : StartsLine text) (more : String)
    (hmore : '\n' ∉ more.toList) : StartsLine (text ++ more) := by
  obtain ⟨c, rest, htext, hc⟩ := h.start
  refine ⟨?_, c, rest ++ more.toList, ?_, hc⟩
  · simpa [String.toList_append] using ⟨h.oneLine, hmore⟩
  · rw [String.toList_append, htext, List.cons_append]

/-- A line opens no level unless it ends with a brace. -/
theorem StartsLine.not_opens {text : String} (h : StartsLine text)
    (hlast : text.toList.getLast? ≠ some '\x7b') (blanks : List Char) :
    ¬Opens (blanks ++ text.toList) := by
  rintro ⟨before, hbefore⟩
  obtain ⟨c, rest, htext, -⟩ := h.start
  have hend : (before ++ [' ', '\x7b']).getLast? = some '\x7b' := by simp
  rw [hbefore, List.getLast?_append_of_ne_nil _ (by simp [htext])] at hend
  exact hlast hend

/-- Statements followed by statements at the same depth are statements. -/
theorem IsBody.append {depth : Nat} {left right : List Line} (hleft : IsBody depth left)
    (hright : IsBody depth right) : IsBody depth (left ++ right) := by
  induction hleft with
  | nil => exact hright
  | line htext hlast _ ih => exact .line htext hlast (ih hright)
  | block hheader hbody _ _ ih =>
    rw [List.append_assoc]
    exact .block hheader hbody (ih hright)

/-- Every line of statements is one line, without blanks in front of what it says. -/
theorem IsBody.forall_mem {depth : Nat} {lines : List Line} (h : IsBody depth lines) :
    ∀ line ∈ lines, '\n' ∉ line.text.toList ∧ StartsOutside isIndentChar line.text.toList := by
  induction h with
  | nil => exact fun _ hline => absurd hline List.not_mem_nil
  | line htext _ _ ih => exact List.forall_mem_cons.mpr ⟨⟨htext.oneLine, htext.startsOutside⟩, ih⟩
  | block hheader _ _ ihbody ih =>
    have hopening := hheader.append " \x7b" (by decide)
    have hclosing : '\n' ∉ "\x7d".toList ∧ StartsOutside isIndentChar "\x7d".toList :=
      ⟨by decide, startsOutside_cons.mpr rfl⟩
    refine List.forall_mem_append.mpr ⟨List.forall_mem_append.mpr ⟨?_, ?_⟩, ih⟩
    · exact List.forall_mem_cons.mpr ⟨⟨hopening.oneLine, hopening.startsOutside⟩, ihbody⟩
    · exact List.forall_mem_singleton.mpr hclosing

section Reading

variable {indent : String} (hindent : ∀ c ∈ indent.toList, isIndentChar c)

include hindent

/-- A line without its indentation is its text. -/
theorem unindented_pad_append {text : List Char} (htext : StartsOutside isIndentChar text)
    (depth : Nat) : unindented (pad indent depth ++ text) = text := by
  rw [unindented, List.dropWhile_append_of_pos (isIndentChar_of_mem_pad hindent depth)]
  cases text with
  | nil => rfl
  | cons c rest => rw [List.dropWhile_cons, if_neg (by simp [startsOutside_cons.mp htext])]

/-- What starts the line of a statement closes no level. -/
theorem StartsLine.not_closes {text : String} (h : StartsLine text) (depth : Nat) :
    ¬Closes (pad indent depth ++ text.toList) := by
  obtain ⟨c, rest, htext, -, hbrace⟩ := h.start
  intro hcloses
  rw [Closes, unindented_pad_append hindent h.startsOutside, htext] at hcloses
  exact hbrace (List.cons.inj hcloses).1

/-- Statements at a depth are well nested from the level of their depth on. -/
theorem IsBody.wellNested {depth : Nat} {lines : List Line} (h : IsBody depth lines)
    {rest : List (List Char)} (hrest : WellNested indent depth rest) :
    WellNested indent depth (lines.map (Line.chars indent) ++ rest) := by
  induction h generalizing rest with
  | nil => exact hrest
  | line htext hlast _ ih =>
    exact .plain (htext.not_closes hindent _) (htext.not_opens hlast _)
      ⟨_, rfl, htext.startsOutside⟩ (ih hrest)
  | @block depth header body _ hheader _ _ ihbody ih =>
    -- Built from the end: what follows the block, its closing line, its body, its opening line.
    have hopening := hheader.append " \x7b" (by decide)
    have hbrace : StartsOutside isIndentChar ['\x7d'] := startsOutside_cons.mpr rfl
    have hclosing : WellNested indent (depth + 1) ((pad indent depth ++ ['\x7d']) :: _) :=
      .closing (unindented_pad_append hindent hbrace depth) ⟨_, rfl, hbrace⟩ (ih hrest)
    have hnested := ihbody hclosing
    have hopens : Opens (pad indent depth ++ (header ++ " \x7b").toList) := by
      rw [String.toList_append]
      exact ⟨pad indent depth ++ header.toList, by simp⟩
    have hblock := WellNested.opening (hopening.not_closes hindent depth) hopens
      ⟨_, rfl, hopening.startsOutside⟩ hnested
    simpa [SourceText.block, Line.chars] using hblock

/-- The lines of statements without their leading blanks are their texts. -/
theorem IsBody.map_unindented {depth : Nat} {lines : List Line} (h : IsBody depth lines) :
    (lines.map (Line.chars indent)).map unindented = lines.map fun line => line.text.toList := by
  rw [List.map_map]
  refine List.map_congr_left fun line hline => ?_
  exact unindented_pad_append hindent (h.forall_mem line hline).2 line.depth

end Reading

/-- The lines of a layout are those that it was made of. -/
theorem textLines_layout {indent : String} (hindent : ∀ c ∈ indent.toList, isIndentChar c)
    {lines : List Line} (hlines : ∀ line ∈ lines, '\n' ∉ line.text.toList) :
    textLines (layout indent lines) = lines.map (Line.chars indent) := by
  have hpad : ∀ depth, '\n' ∉ pad indent depth := fun depth hmem =>
    absurd (isIndentChar_of_mem_pad hindent depth _ hmem) (by decide)
  have hchars : ∀ line ∈ lines, '\n' ∉ Line.chars indent line := fun line hline => by
    simpa [Line.chars] using ⟨hpad line.depth, hlines line hline⟩
  have htext : (layout indent lines).toList =
      (lines.map (Line.chars indent)).flatMap (· ++ ['\n']) := by
    simp [layout, Line.layout, Line.chars, pad, List.flatMap_map]
  rw [textLines, htext, splitOn_flatMap_append (List.forall_mem_map.mpr hchars)]
  simp

/-- Whether rendering succeeds and gives statements at a depth. -/
def RendersBody (depth : Nat) (outcome : Except Fault (List Line)) : Prop :=
  ∃ lines, outcome = .ok lines ∧ IsBody depth lines

namespace RendersBody

variable {depth : Nat}

/-- Rendering no lines gives statements. -/
theorem nil : RendersBody depth (.ok []) :=
  ⟨[], rfl, .nil⟩

/-- Rendering statements and then others at the same depth gives statements. -/
theorem append {first others : Except Fault (List Line)} (hfirst : RendersBody depth first)
    (hothers : RendersBody depth others) :
    RendersBody depth (do let lines ← first; let more ← others; return lines ++ more) := by
  obtain ⟨lines, rfl, hlines⟩ := hfirst
  obtain ⟨more, rfl, hmore⟩ := hothers
  exact ⟨lines ++ more, rfl, hlines.append hmore⟩

/-- Rendering a header and, one level deeper, the statements of its block gives a statement. -/
theorem block {body : Except Fault (List Line)} (h : RendersBody (depth + 1) body)
    {header : String} (hheader : StartsLine header) :
    RendersBody depth (SourceText.block depth header <$> body) := by
  obtain ⟨lines, rfl, hlines⟩ := h
  refine ⟨_, rfl, ?_⟩
  rw [← List.append_nil (SourceText.block depth header lines)]
  exact .block hheader hlines .nil

/-- A statement that gives a value on one line. -/
theorem inline {key value : String} (hkey : StartsLine key) (hline : '\n' ∉ value.toList)
    (hlast : value.toList.getLast? ≠ some '\x7b') :
    RendersBody depth (.ok [⟨depth, key ++ " = " ++ value⟩]) := by
  have hequals := hkey.append " = " (by decide)
  refine ⟨_, rfl, .line (hequals.append value hline) ?_ .nil⟩
  rw [String.toList_append, List.getLast?_append, String.toList_append]
  cases hvalue : value.toList.getLast? with
  | none => simp
  | some c => simpa [hvalue] using hlast

end RendersBody

/-- A text that runs over no line does not do so between quotes. -/
theorem newline_not_mem_enclose {quote : Char} (hquote : quote ≠ '\n') {text : String}
    (h : '\n' ∉ text.toList) : '\n' ∉ (enclose quote text).toList := by
  have hguarded : '\n' ∉ text.toList.flatMap (guarded quote) := by
    intro hmem
    obtain ⟨c, hc, hmem⟩ := List.mem_flatMap.mp hmem
    have hne : '\n' ≠ c := fun heq => h (heq ▸ hc)
    unfold guarded at hmem
    split at hmem <;> simp [hne] at hmem
  simpa [toList_enclose, hguarded] using hquote.symm

/-- A key that runs over no line does not do so as it is written. -/
theorem newline_not_mem_formatKey {key : String} (h : '\n' ∉ key.toList) :
    '\n' ∉ (formatKey key).toList := by
  rcases formatKey_cases key with ⟨hkey, -⟩ | hkey <;> rw [hkey]
  · exact h
  · exact newline_not_mem_enclose (by decide) h

/-- A target whose keys run over no line starts a line. -/
theorem startsLine_target (target : Target) (h : '\n' ∉ target.text.toList) :
    StartsLine target.text :=
  ⟨h, target.text_eq_cons⟩

/-- Whether rendering a node, or its children in any of the ways that children are rendered, gives
statements at the depth that it is rendered at. -/
structure RendersNested (node : Node) : Prop where
  property : ∀ key path depth, StartsLine key →
    RendersBody depth (propertyLines key path depth node)
  body : ∀ path depth, RendersBody depth (bodyLines path depth node.children)
  directives : ∀ path depth, RendersBody depth (directiveLines path depth node.children)
  flat : ∀ key path depth, StartsLine key →
    RendersBody depth (flatLines key path depth node.children)

section Entries

variable {entries : List (String × Node)} (hnames : NamesOnOneLine entries)
  (h : ∀ entry ∈ entries, RendersNested entry.2)

include hnames h

/-- Properties render as statements when the nodes under them do. -/
theorem rendersBody_bodyLines (path : PropertyPath) (depth : Nat) :
    RendersBody depth (bodyLines path depth entries) := by
  induction entries with
  | nil => exact .nil
  | cons entry rest ih =>
    obtain ⟨key, node⟩ := entry
    obtain ⟨hname, hnames⟩ := List.forall_mem_cons.mp hnames
    obtain ⟨hnode, hrest⟩ := List.forall_mem_cons.mp h
    have hothers := ih hnames hrest
    by_cases hkind : node.kind = .directives
    · cases node with
      | directives entries => exact (hnode.directives path depth).append hothers
      | scalar _ | expression _ | reference _ _ | object _ => cases hkind
    · rw [bodyLines_property hkind]
      have hkey : StartsLine (formatKey key) :=
        startsLine_target (.property key) (newline_not_mem_formatKey hname)
      exact (hnode.property _ _ depth hkey).append hothers

/-- Flattened properties render as statements when the nodes under them do. -/
theorem rendersBody_flatLines {key : String} (hkey : StartsLine key) (path : PropertyPath)
    (depth : Nat) : RendersBody depth (flatLines key path depth entries) := by
  induction entries with
  | nil => exact .nil
  | cons entry rest ih =>
    obtain ⟨name, node⟩ := entry
    obtain ⟨hname, hnames⟩ := List.forall_mem_cons.mp hnames
    obtain ⟨hnode, hrest⟩ := List.forall_mem_cons.mp h
    have hentry := (hkey.append "." (by decide)).append _ (newline_not_mem_formatKey hname)
    exact (hnode.property _ _ depth hentry).append (ih hnames hrest)

/-- Directives render as statements when the nodes under them do. -/
theorem rendersBody_directiveLines (path : PropertyPath) (depth : Nat) :
    RendersBody depth (directiveLines path depth entries) := by
  induction entries with
  | nil => exact .nil
  | cons entry rest ih =>
    obtain ⟨name, node⟩ := entry
    obtain ⟨hname, hnames⟩ := List.forall_mem_cons.mp hnames
    obtain ⟨hnode, hrest⟩ := List.forall_mem_cons.mp h
    have hothers := ih hnames hrest
    have hkey : StartsLine ("@" ++ formatKey name) :=
      startsLine_target (.directive name) (by
        simpa [Target.text] using newline_not_mem_formatKey hname)
    by_cases hkind : node.kind = .object
    · cases node with
      | object properties =>
        rw [directiveLines]
        split
        · exact (hnode.flat _ _ depth hkey).append hothers
        · exact (hnode.property _ (path.child ("@" ++ name)) depth hkey).append hothers
      | scalar _ | expression _ | reference _ _ | directives _ => cases hkind
    · rw [directiveLines_value hkind]
      exact (hnode.property _ _ depth hkey).append hothers

end Entries

/-- A literal that is written as a word has neither a line feed nor a brace in it. -/
theorem literalText_keepsLine_of_word {literal : Literal} (h : literal.isRenderable)
    (hword : (Inline.literal literal).opener = none) :
    '\n' ∉ (literalText literal).toList ∧
      (literalText literal).toList.getLast? ≠ some '\x7b' := by
  have hreadable : (Inline.literal literal).IsReadable := h
  have hchars := Inline.chars_of_word hreadable hword
  exact ⟨fun hmem => absurd (hchars _ hmem) (by decide), fun hlast =>
    absurd (hchars _ (List.mem_of_getLast? hlast)) (by decide)⟩

/-- A literal is written on one line, which does not end with an opening brace. -/
theorem literalText_keepsLine {literal : Literal} (h : (Node.scalar literal).KeepsLines) :
    '\n' ∉ (literalText literal).toList ∧
      (literalText literal).toList.getLast? ≠ some '\x7b' := by
  cases literal with
  | string text =>
    refine ⟨newline_not_mem_enclose (by decide) h, ?_⟩
    simp [literalText, quoteString, toList_enclose, List.getLast?_cons]
  | null | bool _ | integer _ | float _ => exact literalText_keepsLine_of_word h rfl

/-- Rendering a node all of whose parts stay on one line gives statements. -/
theorem rendersNested {node : Node} (h : node.Everywhere Node.KeepsLines) : RendersNested node := by
  refine h.induction fun node hhere hchildren => ?_
  have hbody := rendersBody_bodyLines hhere.names hchildren
  have hdirectives := rendersBody_directiveLines hhere.names hchildren
  refine ⟨fun key path depth hkey => ?_, hbody, hdirectives,
    fun key path depth hkey => rendersBody_flatLines hhere.names hchildren hkey path depth⟩
  cases node with
  | scalar literal =>
    have hrenderable : literal.isRenderable := by
      cases literal with
      | string _ => rfl
      | null | bool _ | integer _ | float _ => exact hhere
    obtain ⟨hline, hlast⟩ := literalText_keepsLine hhere
    rw [propertyLines, formatLiteral_of_isRenderable hrenderable]
    exact .inline hkey hline hlast
  | expression text =>
    have hline : '\n' ∉ text.toList := hhere
    have hvalue : key ++ " = $\x7b" ++ text ++ "\x7d" =
        key ++ " = " ++ (Inline.expression text).text := by
      apply String.toList_inj.mp
      simp [toList_text_expression]
    rw [propertyLines, hvalue]
    apply RendersBody.inline hkey
    · simpa [toList_text_expression] using hline
    · simp [toList_text_expression, List.getLast?_cons]
  | reference prototype overrides =>
    obtain ⟨hprototype, -⟩ := hhere
    have hline : '\n' ∉ prototype.toList := fun hmem => (hprototype _ hmem).1 rfl
    rw [propertyLines]
    split
    · exact .inline hkey hline fun hlast =>
        (hprototype _ (List.mem_of_getLast? hlast)).2.2.1 rfl
    · exact (hbody path (depth + 1)).block
        ((hkey.append " = " (by decide)).append prototype hline)
  | object properties => exact (hbody path (depth + 1)).block hkey
  | directives entries => exact (hdirectives path (depth + 1)).block hkey

/-- Rendering a definition gives statements at the outermost level. -/
theorem rendersBody_prototypeLines {name : String} (hname : '\n' ∉ name.toList) {node : Node}
    (h : node.Everywhere Node.KeepsLines) : RendersBody 0 (prototypeLines name node) := by
  have hheader : StartsLine ("prototype(" ++ name ++ ")") := by
    refine ⟨by simpa using hname, 'p', ("rototype(" ++ name ++ ")").toList, ?_, rfl, by decide⟩
    simp
  have hnested := rendersNested h
  cases node with
  | reference parent overrides =>
    have hparent : '\n' ∉ parent.toList := fun hmem => (h.here.1 _ hmem).1 rfl
    have hextends : StartsLine ("prototype(" ++ name ++ ")" ++ " < prototype(" ++ parent ++ ")") :=
      ((hheader.append _ (by decide)).append parent hparent).append _ (by decide)
    exact (hnested.body (.ofPrototype name) 1).block hextends
  | scalar _ | expression _ | object _ | directives _ =>
    exact hnested.property _ (.ofPrototype name) 0 hheader

/-- Rendering the paths gives statements at the outermost level. -/
theorem rendersBody_pathLines {paths : Keyed Node} (hnames : NamesOnOneLine paths)
    (h : EverywhereAmong Node.KeepsLines paths) : RendersBody 0 (pathLines paths) :=
  rendersBody_bodyLines hnames
    (fun entry hentry => rendersNested (everywhereAmong_iff.mp h entry hentry)) .ofPaths 0

/-- Statements at the outermost level are laid out to a text that is well nested, and the
indentation makes no other difference to its lines. -/
theorem RendersBody.exists_texts {outcome : Except Fault (List Line)} (h : RendersBody 0 outcome)
    {indent other : String} (hindent : ∀ c ∈ indent.toList, isIndentChar c)
    (hother : ∀ c ∈ other.toList, isIndentChar c) :
    ∃ text otherText, layout indent <$> outcome = .ok text ∧
      layout other <$> outcome = .ok otherText ∧ WellNested indent 0 (textLines text) ∧
      (textLines text).map unindented = (textLines otherText).map unindented := by
  obtain ⟨lines, rfl, hlines⟩ := h
  have honeLine : ∀ line ∈ lines, '\n' ∉ line.text.toList := fun line hline =>
    (hlines.forall_mem line hline).1
  refine ⟨_, _, rfl, rfl, ?_, ?_⟩
  · rw [textLines_layout hindent honeLine, ← List.append_nil (lines.map _)]
    exact hlines.wellNested hindent .nil
  · rw [textLines_layout hindent honeLine, textLines_layout hother honeLine,
      hlines.map_unindented hindent, hlines.map_unindented hother]

/-- Rendering a definition or the paths gives a well-nested text when every part of it stays on one
line: the level never falls below zero and is zero at the end, and every line is indented by its
level. Two indentations give the same lines up to leading blanks. -/
theorem render_wellNested {indent other : String}
    (hindent : ∀ c ∈ indent.toList, c = ' ' ∨ c = '\t')
    (hother : ∀ c ∈ other.toList, c = ' ' ∨ c = '\t') :
    (∀ (name : String) (node : Node), '\n' ∉ name.toList → node.Everywhere Node.KeepsLines →
      ∃ text otherText, renderPrototype indent name node = .ok text ∧
        renderPrototype other name node = .ok otherText ∧ WellNested indent 0 (textLines text) ∧
        (textLines text).map unindented = (textLines otherText).map unindented) ∧
    ∀ paths : Keyed Node, NamesOnOneLine paths → EverywhereAmong Node.KeepsLines paths →
      ∃ text otherText, renderPaths indent paths = .ok text ∧
        renderPaths other paths = .ok otherText ∧ WellNested indent 0 (textLines text) ∧
        (textLines text).map unindented = (textLines otherText).map unindented := by
  have hblanks := isIndentChar_of_blanks hindent
  have hblanks' := isIndentChar_of_blanks hother
  exact ⟨fun name node hname hnode =>
      (rendersBody_prototypeLines hname hnode).exists_texts hblanks hblanks',
    fun paths hnames hpaths =>
      (rendersBody_pathLines hnames hpaths).exists_texts hblanks hblanks'⟩

/-- A prototype with braces in a key and in values, directives in each of their forms, and an empty
block. -/
theorem render_wellNested_of_card :
    let wrapped : Node := .object
      [("wrap", .reference "Site:Wrapper" [("size", .scalar (.integer 2))]),
        (metaKey, .directives [("position", .scalar (.string "end \x7b"))])]
    let card : Node := .reference "Site:Base"
      [("title \x7b", .scalar (.string "\x7d\t \x7b")), ("text", .expression "\x7b \x7d"),
        (metaKey, .directives [("if", .object [("visible", .scalar (.bool true))]),
          ("process", wrapped)]), ("slot", .object [])]
    (∀ c ∈ "  ".toList, c = ' ' ∨ c = '\t') ∧ (∀ c ∈ "\t".toList, c = ' ' ∨ c = '\t') ∧
      '\n' ∉ "Site:Card".toList ∧ card.Everywhere Node.KeepsLines ∧
      NamesOnOneLine [("card", card)] ∧ EverywhereAmong Node.KeepsLines [("card", card)] ∧
      (∃ text otherText, renderPrototype "  " "Site:Card" card = .ok text ∧
        renderPrototype "\t" "Site:Card" card = .ok otherText ∧
        WellNested "  " 0 (textLines text) ∧
        (textLines text).map unindented = (textLines otherText).map unindented) ∧
      ∃ text otherText, renderPaths "  " [("card", card)] = .ok text ∧
        renderPaths "\t" [("card", card)] = .ok otherText ∧
        WellNested "  " 0 (textLines text) ∧
        (textLines text).map unindented = (textLines otherText).map unindented := by
  intro wrapped card
  have hindent : ∀ c ∈ "  ".toList, c = ' ' ∨ c = '\t' := by simp
  have hother : ∀ c ∈ "\t".toList, c = ' ' ∨ c = '\t' := by simp
  have hname : '\n' ∉ "Site:Card".toList := by decide
  have hcard : card.Everywhere Node.KeepsLines := by decide
  have hnames : NamesOnOneLine [("card", card)] := by decide
  have hpaths : EverywhereAmong Node.KeepsLines [("card", card)] := by decide
  obtain ⟨hdefinition, hstatements⟩ := render_wellNested hindent hother
  exact ⟨hindent, hother, hname, hcard, hnames, hpaths, hdefinition _ card hname hcard,
    hstatements _ hnames hpaths⟩

end SourceText

end ComponentAtlas

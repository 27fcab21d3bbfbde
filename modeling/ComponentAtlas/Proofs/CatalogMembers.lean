import ComponentAtlas.Catalog
import ComponentAtlas.Proofs.MergeValidity
import ComponentAtlas.Proofs.Successions

/-!
# What a catalog lists

The catalog of a valid tree lists the prototypes that are annotated for the styleguide and that no
pattern hides, in the order of the tree. It shows each as the styleguide does, in the group of the
first rule that matches its name. So rules that are appended change nothing for a name that was
matched before, and patterns that are added only take entries away.
-/

namespace ComponentAtlas

/-- Whether the pattern of a rule matches a name. -/
def StructureRule.Matches (rule : StructureRule) (name : String) : Prop :=
  ∃ regex, Regex.parse rule.pattern = .ok regex ∧ regex.isMatch name

/-- Whether one of several patterns matches a name. -/
def HiddenBy (patterns : List String) (name : String) : Prop :=
  ∃ pattern ∈ patterns, ∃ glob, Glob.parse pattern = .ok glob ∧ glob.isMatch name

/-- Whether a group is that of the first rule that matches a name, or else the one of the names that
no rule matches. -/
inductive GroupedAs (rules : List StructureRule) (name : String) : Structure → Prop
  | matched (index : Nat) {rule : StructureRule} (hrule : rules[index]? = some rule)
      (hmatches : rule.Matches name)
      (hfirst : ∀ earlier < index, ∀ other, rules[earlier]? = some other → ¬other.Matches name) :
      GroupedAs rules name rule.group
  | unmatched (hnone : ∀ rule ∈ rules, ¬rule.Matches name) : GroupedAs rules name .other

namespace GroupedAs

variable {rules more : List StructureRule} {rule : StructureRule} {name : String}
  {group other : Structure}

/-- A rule in front of others that matches decides. -/
theorem cons_of_matches (hmatches : rule.Matches name) : GroupedAs (rule :: rules) name rule.group :=
  .matched 0 rfl hmatches fun _ hearlier => absurd hearlier (Nat.not_lt_zero _)

/-- A rule in front of others that does not match changes nothing. -/
theorem cons_of_not_matches (hnot : ¬rule.Matches name) (h : GroupedAs rules name group) :
    GroupedAs (rule :: rules) name group := by
  cases h with
  | @matched index _ hrule hmatches hfirst =>
    refine .matched (index + 1) hrule hmatches fun earlier hearlier other hother => ?_
    cases earlier with
    | zero =>
      cases hother
      exact hnot
    | succ earlier => exact hfirst earlier (by omega) other hother
  | unmatched hnone => exact .unmatched (List.forall_mem_cons.mpr ⟨hnot, hnone⟩)

/-- A name has one group. -/
theorem unique (h : GroupedAs rules name group) (hother : GroupedAs rules name other) :
    group = other := by
  cases h with
  | @matched index rule hrule hmatches hfirst =>
    cases hother with
    | @matched index' rule' hrule' hmatches' hfirst' =>
      have hge : ¬index' < index := fun hlt => hfirst index' hlt rule' hrule' hmatches'
      have hle : ¬index < index' := fun hlt => hfirst' index hlt rule hrule hmatches
      obtain rfl : index = index' := by omega
      rw [hrule] at hrule'
      cases hrule'
      rfl
    | unmatched hnone => exact absurd hmatches (hnone rule (List.mem_of_getElem? hrule))
  | unmatched hnone =>
    cases hother with
    | matched _ hrule hmatches _ => exact absurd hmatches (hnone _ (List.mem_of_getElem? hrule))
    | unmatched _ => rfl

/-- The group of a name that a rule matches stays the same when rules are appended. -/
theorem append (h : GroupedAs rules name group) (hmatched : ∃ rule ∈ rules, rule.Matches name) :
    GroupedAs (rules ++ more) name group := by
  cases h with
  | @matched index rule hrule hmatches hfirst =>
    obtain ⟨hindex, -⟩ := List.getElem?_eq_some_iff.mp hrule
    refine .matched index ?_ hmatches fun earlier hearlier other hother => ?_
    · rwa [List.getElem?_append_left hindex]
    · rw [List.getElem?_append_left (Nat.lt_trans hearlier hindex)] at hother
      exact hfirst earlier hearlier other hother
  | unmatched hnone =>
    obtain ⟨rule, hrule, hmatches⟩ := hmatched
    exact absurd hmatches (hnone rule hrule)

end GroupedAs

/-- A rule is compiled when its pattern can be read as a regular expression, which it is then. -/
theorem StructureRule.compile_eq_ok {rule : StructureRule} {compiled : CompiledRule} :
    rule.compile = .ok compiled ↔
      compiled.rule = rule ∧ Regex.parse rule.pattern = .ok compiled.regex := by
  obtain ⟨written, regex⟩ := compiled
  rw [compile]
  cases Regex.parse rule.pattern with
  | error fault => simp
  | ok parsed => simp [eq_comm]

/-- A compiled rule matches the names that its expression matches. -/
theorem StructureRule.matches_iff {rule : StructureRule} {compiled : CompiledRule}
    (h : rule.compile = .ok compiled) (name : String) :
    rule.Matches name ↔ compiled.regex.isMatch name := by
  obtain ⟨-, hparse⟩ := compile_eq_ok.mp h
  constructor
  · rintro ⟨regex, hregex, hmatch⟩
    cases hparse.symm.trans hregex
    exact hmatch
  · intro hmatch
    exact ⟨compiled.regex, hparse, hmatch⟩

/-- A hide pattern is compiled when it can be read as a glob, which it is then. -/
theorem compileHidePattern_eq_ok {pattern : String} {glob : Glob} :
    compileHidePattern pattern = .ok glob ↔ Glob.parse pattern = .ok glob := by
  rw [compileHidePattern]
  cases Glob.parse pattern <;> simp

namespace Classifier

variable {rules : List StructureRule} {patterns : List String} {classifier : Classifier}

/-- Rules and patterns compile one by one. -/
theorem compile_eq_ok :
    compile rules patterns = .ok classifier ↔
      List.Forall₂ (fun rule compiled => rule.compile = .ok compiled) rules classifier.rules ∧
      List.Forall₂ (fun pattern glob => compileHidePattern pattern = .ok glob) patterns
        classifier.hidePatterns := by
  obtain ⟨compiled, globs⟩ := classifier
  simp only [compile, bind_eq_ok, mapM_eq_ok]
  constructor
  · rintro ⟨_, hrules, _, hpatterns, ⟨⟩⟩
    exact ⟨hrules, hpatterns⟩
  · rintro ⟨hrules, hpatterns⟩
    exact ⟨compiled, hrules, globs, hpatterns, rfl⟩

/-- A classifier puts a name into the group of the first rule that matches it. -/
theorem groupedAs_classify (h : compile rules patterns = .ok classifier) (name : String) :
    GroupedAs rules name (classifier.classify name) := by
  obtain ⟨compiled, globs⟩ := classifier
  have hrules : List.Forall₂ (fun rule compiled => rule.compile = .ok compiled) rules compiled :=
    (compile_eq_ok.mp h).1
  clear h
  induction hrules with
  | nil => exact .unmatched fun _ h => absurd h List.not_mem_nil
  | @cons rule first rules rest hfirst hrest ih =>
    by_cases hmatch : first.regex.isMatch name
    · have hclassify : classify ⟨first :: rest, globs⟩ name = rule.group := by
        simp only [classify, rule?, List.find?_cons, hmatch, Option.map_some, Option.getD_some,
          (StructureRule.compile_eq_ok.mp hfirst).1]
      rw [hclassify]
      exact .cons_of_matches ((StructureRule.matches_iff hfirst name).mpr hmatch)
    · have hclassify : classify ⟨first :: rest, globs⟩ name = classify ⟨rest, globs⟩ name := by
        simp only [classify, rule?, List.find?_cons, hmatch]
      rw [hclassify]
      exact .cons_of_not_matches (mt (StructureRule.matches_iff hfirst name).mp hmatch) ih

/-- A classifier hides a name exactly when one of the patterns matches it. -/
theorem isHidden_iff (h : compile rules patterns = .ok classifier) (name : String) :
    classifier.isHidden name ↔ HiddenBy patterns name := by
  obtain ⟨-, hpatterns⟩ := compile_eq_ok.mp h
  rw [isHidden, List.any_eq_true]
  refine (exists_mem_iff_of_forall₂ (fun pattern glob hcompile => ?_) hpatterns).symm
  have hparse := compileHidePattern_eq_ok.mp hcompile
  constructor
  · rintro ⟨parsed, hparsed, hmatch⟩
    cases hparse.symm.trans hparsed
    exact hmatch
  · intro hmatch
    exact ⟨glob, hparse, hmatch⟩

end Classifier

/-- Whether a node carries the directive that puts prototypes into the styleguide. -/
def Node.IsAnnotated (node : Node) : Prop :=
  ∃ directives : Keyed Node, node.get? metaKey = some (.directives directives) ∧
    styleguideDirective ∈ directives.keys

/-- A node whose directives are in place has styleguide data exactly when it is annotated. -/
theorem Node.DirectivesInPlace.styleguide?_isSome {node : Node} (h : node.DirectivesInPlace) :
    node.styleguide?.isSome ↔ node.IsAnnotated := by
  constructor
  · intro hsome
    obtain ⟨mark, hmark⟩ := Option.isSome_iff_exists.mp hsome
    obtain ⟨directives, hmeta, hfind⟩ := Option.bind_eq_some_iff.mp hmark
    exact ⟨directives, (h.metaDirectives?_iff directives).mp hmeta, Keyed.mem_keys_of_find? hfind⟩
  · rintro ⟨directives, hget, hkey⟩
    rw [styleguide?, (h.metaDirectives?_iff directives).mpr hget, Option.bind_some]
    exact Keyed.find?_isSome.mpr hkey

namespace Tree

variable {tree : Tree}

/-- In a valid tree the directives of a prototype are those under the reserved key. -/
theorem directivesInPlace {tree : DistinctTree} (hvalid : tree.validate = .ok ()) {name : String}
    {node : Node} (hnode : tree.prototypes.find? name = some node) : node.DirectivesInPlace :=
  Node.directivesInPlace (tree.distinct.2.node hnode).here
    ((validate_eq_ok.mp hvalid).prototypes.node hnode).here

/-- The styleguide selects the prototypes that have styleguide data, in their order. -/
theorem styleguide_eq (tree : Tree) : tree.styleguide =
    Keyed.selected (fun name node => node.styleguide?.map (styleguideObject name))
      tree.prototypes := by
  refine congrArg (List.filterMap · tree.prototypes) (funext fun ⟨name, node⟩ => ?_)
  exact (Option.map_map (name, ·) (styleguideObject name) node.styleguide?).symm

/-- The catalog selects the objects of the styleguide that are not hidden, each with its structure.
-/
theorem catalog_eq (tree : Tree) (classifier : Classifier) : tree.catalog classifier =
    Keyed.selected (fun name entry => if classifier.isHidden name then none
      else some { entry with group := some (classifier.classify name) }) tree.styleguide := by
  rw [catalog]
  induction tree.styleguide with
  | nil => rfl
  | cons entry rest ih =>
    obtain ⟨name, object⟩ := entry
    rw [Keyed.selected_cons, ← ih]
    cases hhidden : classifier.isHidden name <;> simp [hhidden]

/-- The catalog lists the names of the styleguide that are not hidden, in their order. -/
theorem keys_catalog (tree : Tree) (classifier : Classifier) : (tree.catalog classifier).keys =
    Keyed.keys (tree.styleguide.filter fun entry => !classifier.isHidden entry.1) := by
  rw [catalog, Keyed.keys, List.map_map]
  rfl

/-- The catalog lists prototypes of the tree, in the order of the tree. -/
theorem keys_catalog_sublist (tree : Tree) (classifier : Classifier) :
    (tree.catalog classifier).keys.Sublist tree.prototypeNames := by
  rw [keys_catalog]
  refine (List.filter_sublist.map Prod.fst).trans ?_
  rw [styleguide_eq]
  exact Keyed.keys_selected_sublist _ _

/-- The catalog holds under a name what the styleguide holds there, unless the name is hidden. -/
theorem find?_catalog (hdistinct : tree.prototypes.Distinct) (classifier : Classifier)
    (name : String) : (tree.catalog classifier).find? name =
      if classifier.isHidden name then none
      else (tree.styleguide.find? name).map fun entry =>
        { entry with group := some (classifier.classify name) } := by
  have hstyleguide : tree.styleguide.Distinct := by
    rw [styleguide_eq]
    exact hdistinct.sublist (Keyed.keys_selected_sublist _ _)
  rw [catalog_eq, Keyed.find?_selected _ hstyleguide]
  cases tree.styleguide.find? name <;> split <;> rfl

/-- A name is in the catalog exactly when its prototype is annotated and not hidden. -/
theorem mem_keys_catalog {tree : DistinctTree} (hvalid : tree.validate = .ok ())
    (classifier : Classifier) {name : String} : name ∈ (tree.catalog classifier).keys ↔
      ∃ node, tree.prototypes.find? name = some node ∧ node.IsAnnotated ∧
        ¬classifier.isHidden name := by
  rw [← Keyed.find?_isSome, find?_catalog tree.distinct.2.1, styleguide_eq,
    Keyed.find?_selected _ tree.distinct.2.1]
  cases hnode : tree.prototypes.find? name with
  | none => simp
  | some node =>
    have hannotated := (directivesInPlace hvalid hnode).styleguide?_isSome
    cases hhidden : classifier.isHidden name <;> simp [← hannotated]

/-- A classifier that hides more names and groups them alike has a part of the catalog. -/
theorem catalog_eq_filter {classifier narrowed : Classifier}
    (hhidden : ∀ name, classifier.isHidden name → narrowed.isHidden name)
    (hgroup : ∀ name, narrowed.classify name = classifier.classify name) :
    tree.catalog narrowed =
      (tree.catalog classifier).filter fun entry => !narrowed.isHidden entry.1 := by
  rw [catalog, catalog, List.filter_map, List.filter_filter]
  simp only [hgroup]
  refine congrArg (List.map _) (List.filter_congr fun entry _ => ?_)
  cases hclassifier : classifier.isHidden entry.1 with
  | false => simp
  | true => simp [hhidden _ hclassifier]

/-- The catalog of a valid tree lists, in the order of the tree, the annotated prototypes that no
pattern hides. It shows each as the styleguide does, in the group of the first rule that matches its
name. Rules that are appended leave names alone that were matched before, and added patterns take
away what they hide and nothing else. -/
theorem catalog_annotated_visible {tree : DistinctTree} (hvalid : tree.validate = .ok ())
    {rules : List StructureRule} {patterns : List String} {classifier : Classifier}
    (hcompile : Classifier.compile rules patterns = .ok classifier) :
    ((tree.catalog classifier).keys.Sublist tree.prototypeNames ∧
      (tree.catalog classifier).keys.Nodup ∧
      ∀ name, name ∈ (tree.catalog classifier).keys ↔
        ∃ node, tree.prototypes.find? name = some node ∧ node.IsAnnotated ∧
          ¬HiddenBy patterns name) ∧
    (∀ name object, (tree.catalog classifier).find? name = some object →
      ∃ entry group, tree.styleguide.find? name = some entry ∧ GroupedAs rules name group ∧
        object = { entry with group := some group }) ∧
    (∀ more extended, Classifier.compile (rules ++ more) patterns = .ok extended →
      (tree.catalog extended).keys = (tree.catalog classifier).keys ∧
      ∀ name, (∃ rule ∈ rules, rule.Matches name) →
        extended.classify name = classifier.classify name ∧
        (tree.catalog extended).find? name = (tree.catalog classifier).find? name) ∧
    ∀ more narrowed, patterns ⊆ more → Classifier.compile rules more = .ok narrowed →
      (tree.catalog narrowed).Sublist (tree.catalog classifier) ∧
      ∀ entry, entry ∈ tree.catalog narrowed ↔
        entry ∈ tree.catalog classifier ∧ ¬HiddenBy more entry.1 := by
  have hgroup := Classifier.groupedAs_classify hcompile
  have hhidden := Classifier.isHidden_iff hcompile
  refine ⟨⟨?_, ?_, fun name => ?_⟩, fun name object hobject => ?_, fun more extended hmore => ?_,
    fun more narrowed hsubset hmore => ?_⟩
  · exact keys_catalog_sublist tree.toTree classifier
  · exact tree.distinct.2.1.sublist (keys_catalog_sublist tree.toTree classifier)
  · rw [mem_keys_catalog hvalid, hhidden]
  · rw [find?_catalog tree.distinct.2.1] at hobject
    split at hobject
    · cases hobject
    · obtain ⟨entry, hentry, rfl⟩ := Option.map_eq_some_iff.mp hobject
      exact ⟨entry, _, hentry, hgroup name, rfl⟩
  · have hsame : ∀ name, extended.isHidden name = classifier.isHidden name := fun name =>
      Bool.eq_iff_iff.mpr ((Classifier.isHidden_iff hmore name).trans (hhidden name).symm)
    refine ⟨by simp only [keys_catalog, hsame], fun name hmatched => ?_⟩
    have hkept : extended.classify name = classifier.classify name :=
      (Classifier.groupedAs_classify hmore name).unique ((hgroup name).append hmatched)
    refine ⟨hkept, ?_⟩
    rw [find?_catalog tree.distinct.2.1, find?_catalog tree.distinct.2.1, hsame, hkept]
  · have hmoreHidden := Classifier.isHidden_iff hmore
    have hfilter : tree.catalog narrowed =
        (tree.catalog classifier).filter fun entry => !narrowed.isHidden entry.1 := by
      refine catalog_eq_filter (fun name hname => ?_) fun name => ?_
      · obtain ⟨pattern, hpattern, hmatches⟩ := (hhidden name).mp hname
        exact (hmoreHidden name).mpr ⟨pattern, hsubset hpattern, hmatches⟩
      · exact (Classifier.groupedAs_classify hmore name).unique (hgroup name)
    refine ⟨hfilter ▸ List.filter_sublist, fun entry => ?_⟩
    rw [hfilter, List.mem_filter, ← hmoreHidden, Bool.not_eq_true', Bool.not_eq_true]

/-- A site with an annotated form, an annotated prototype that is hidden, and an icon without any
annotation. The form is in the group of the first of the two rules that match it. -/
theorem catalog_annotated_visible_of_site :
    let annotated : Node := .object [(metaKey, .directives [(styleguideDirective, .object [])])]
    let site : Tree :=
      { prototypes := [("Site:Form.Input", annotated), ("Site:Internal.Debug", annotated),
        ("Site:Icon", .object [("size", .scalar (.integer 16))])] }
    let rules : List StructureRule :=
      [{ pattern := "^Site:Form", group := { label := "Forms" } },
        { pattern := "Input", group := { label := "Inputs" } }]
    ∃ classifier, (site.DistinctKeys ∧ site.validate = .ok () ∧
        Classifier.compile rules ["*:Internal.*"] = .ok classifier) ∧
      (∀ name, name ∈ (site.catalog classifier).keys ↔
        ∃ node, site.prototypes.find? name = some node ∧ node.IsAnnotated ∧
          ¬HiddenBy ["*:Internal.*"] name) ∧
      (∀ more narrowed, ["*:Internal.*"] ⊆ more →
        Classifier.compile rules more = .ok narrowed →
        (site.catalog narrowed).Sublist (site.catalog classifier)) ∧
      (site.catalog classifier).map (fun entry => (entry.1, entry.2.group)) =
        [("Site:Form.Input", some { label := "Forms" })] := by
  intro annotated site rules
  have hdistinct : site.DistinctKeys := by decide
  have hvalid : site.validate = .ok () := by decide
  have hlisted : (Classifier.compile rules ["*:Internal.*"]).toOption.map (fun classifier =>
      (site.catalog classifier).map fun entry => (entry.1, entry.2.group)) =
        some [("Site:Form.Input", some { label := "Forms" })] := by decide +kernel
  cases hcompile : Classifier.compile rules ["*:Internal.*"] with
  | error fault =>
    rw [hcompile] at hlisted
    cases hlisted
  | ok classifier =>
    rw [hcompile] at hlisted
    obtain ⟨hmembers, -, -, hnarrowed⟩ :=
      @catalog_annotated_visible ⟨site, hdistinct⟩ hvalid _ _ _ hcompile
    exact ⟨classifier, ⟨hdistinct, hvalid, rfl⟩, hmembers.2.2,
      fun more narrowed hsubset hmore => (hnarrowed more narrowed hsubset hmore).1,
      Option.some.inj hlisted⟩

end Tree

end ComponentAtlas

import ComponentAtlas.Proofs.Invocations
import ComponentAtlas.Proofs.PathWalks
import ComponentAtlas.Proofs.RenderingFaults

/-!
# The views on an anatomy

The listing of all prototypes shows the anatomy of each, and a command of its own shows that of a
single one. The listing looks at the nodes only, while the command shows a part of the detail view,
which renders the prototype as well. So both show the same anatomy where there is source text for
the prototype, and the command fails where there is none.
-/

namespace ComponentAtlas

/-- What a run leaves behind that prints a value as JSON. -/
def printed (value : Value) : Outcome :=
  { output := linesText [Json.compact value] }

section Views

variable {tree : Tree} {indent name : String} {node : Node}

/-- The listing shows a prototype with its anatomy. -/
theorem Tree.find?_listing (hnode : tree.prototypes.find? name = some node) :
    (tree.listing.mapValues Listing.toValue).find? name =
      some (.record [("node", node.toValue), ("anatomy", node.anatomy.toValue)]) := by
  rw [Keyed.find?_mapValues, listing, Keyed.find?_mapValues, hnode]
  rfl

/-- The detail view of a prototype with source text shows the source, the document and the anatomy.
-/
theorem Tree.detail_of_source (hnode : tree.prototypes.find? name = some node) {source : String}
    (hsource : SourceText.renderPrototype indent name node = .ok source) :
    tree.detail indent name =
      .ok { name, source, document := Yaml.document node.toValue, node, anatomy := node.anatomy
            outline := node.outline } := by
  rw [detail, prototype, hnode]
  simp only [bind, Except.bind, hsource]
  rfl

/-- There is no detail view of a prototype without source text. -/
theorem Tree.detail_of_fault (hnode : tree.prototypes.find? name = some node) {fault : Fault}
    (hfault : SourceText.renderPrototype indent name node = .error fault) :
    tree.detail indent name = .error fault := by
  rw [detail, prototype, hnode]
  simp only [bind, Except.bind, hfault]

end Views

/-- Whether a run that looks at given places puts its query about a package to an inspector: it
finds the settings, the directory of the fragments and the package. -/
structure Environment.Opens (environment : Environment) (places : Places) (inspector : Inspector)
    (package : String) : Prop where
  settings : environment.files.settings places.config environment.userSettings =
    .ok inspector.settings
  source : ∃ root, environment.files.fragmentsRoot places.fragments inspector.settings = .ok root ∧
    inspector.source = .directory { files := environment.files, root }
  package : inspector.resolvePackage places.package = .ok package

namespace Environment.Opens

variable {environment : Environment} {places : Places} {inspector : Inspector} {package : String}

/-- A run that opens an inspector is not told to look for fragments under an empty path. -/
theorem fragments_ne (h : environment.Opens places inspector package) :
    places.fragments ≠ some "" := by
  intro hempty
  obtain ⟨root, hroot, -⟩ := h.source
  rw [hempty] at hroot
  cases hroot

/-- A run that opens an inspector is not told to read its settings from an empty path. -/
theorem config_ne (h : environment.Opens places inspector package) : places.config ≠ some "" := by
  intro hempty
  have hsettings := h.settings
  rw [hempty] at hsettings
  cases hsettings

/-- A query is put to the inspector that the run opens. -/
theorem outcome_eq (h : environment.Opens places inspector package) (query : Query) :
    (places.invocation query).outcome environment =
      (fun report : Report => printed report.value) <$>
        inspector.answer environment.terminal package query := by
  obtain ⟨root, hroot, hsource⟩ := h.source
  have hinspector : Invocation.outcome.inspector (places.invocation query) environment
      inspector.settings = .ok inspector := by
    have hfragments : (places.invocation query).fragments = places.fragments := rfl
    rw [Invocation.outcome.inspector, hfragments, hroot]
    exact congrArg Except.ok (by rw [← hsource])
  have hpackage : queried (inspector.resolvePackage places.package) = .ok package := by
    rw [h.package]
    rfl
  simp only [Invocation.outcome, Places.invocation, h.settings] at hinspector ⊢
  simp only [bind, Except.bind, hinspector, hpackage]
  cases inspector.answer environment.terminal package query <;> rfl

/-- A run prints what the inspector answers. -/
theorem run_eq (h : environment.Opens places inspector package) {arguments : List String}
    {query : Query} (hread : Invocation.ofArguments arguments = .ok (places.invocation query))
    {report : Report}
    (hanswer : inspector.answer environment.terminal package query = .ok report) :
    environment.run arguments = printed report.value := by
  rw [run, hread]
  simp only [h.outcome_eq, hanswer]
  rfl

/-- A run fails with the fault with which the inspector fails. -/
theorem run_fails (h : environment.Opens places inspector package) {arguments : List String}
    {query : Query} (hread : Invocation.ofArguments arguments = .ok (places.invocation query))
    {fault : RunFault}
    (hanswer : inspector.answer environment.terminal package query = .error fault) :
    environment.run arguments = failureOutcome environment.terminal fault := by
  rw [run, hread]
  simp only [h.outcome_eq, hanswer]
  rfl

variable {tree : Tree}

/-- The listing of all prototypes looks at their nodes only, so it never fails. -/
theorem run_listAll (h : environment.Opens places inspector package)
    (htree : inspector.mergedTree package = .ok tree) :
    environment.run (places.arguments ++ ["list", "--all", "--format", "json"]) =
      printed (.record (tree.listing.mapValues Listing.toValue)) := by
  have hanswer : inspector.answer environment.terminal package .listAll =
      .ok (listingReport environment.terminal tree.listing) := by
    rw [Inspector.answer, Inspector.listing, htree]
    rfl
  rw [h.run_eq (Places.ofArguments_listAll h.fragments_ne h.config_ne) hanswer]
  rfl

variable {name : String} {node : Node}

/-- The command shows the anatomy of a prototype for which there is source text. -/
theorem run_anatomy (h : environment.Opens places inspector package)
    (htree : inspector.mergedTree package = .ok tree)
    (hnode : tree.prototypes.find? name = some node) (hname : name.toList.head? ≠ some '-')
    {source : String}
    (hsource : SourceText.renderPrototype inspector.settings.indent name node = .ok source) :
    environment.run (places.arguments ++ ["anatomy", name, "--format", "json"]) =
      printed node.anatomy.toValue := by
  have hanswer : ∃ report, inspector.answer environment.terminal package (.anatomy name .own) =
      .ok report ∧ report.value = node.anatomy.toValue := by
    rw [Inspector.answer, Inspector.detail, htree]
    simp only [bind, Except.bind, tree.detail_of_source hnode hsource]
    exact ⟨_, rfl, rfl⟩
  obtain ⟨report, hreport, hvalue⟩ := hanswer
  rw [h.run_eq (Places.ofArguments_anatomy h.fragments_ne h.config_ne hname) hreport, hvalue]

/-- The command fails where rendering the prototype does. -/
theorem run_anatomy_fails (h : environment.Opens places inspector package)
    (htree : inspector.mergedTree package = .ok tree)
    (hnode : tree.prototypes.find? name = some node) (hname : name.toList.head? ≠ some '-')
    {fault : Fault}
    (hfault : SourceText.renderPrototype inspector.settings.indent name node = .error fault) :
    environment.run (places.arguments ++ ["anatomy", name, "--format", "json"]) =
      failureOutcome environment.terminal (.query fault) := by
  have hanswer : inspector.answer environment.terminal package (.anatomy name .own) =
      .error (.query fault) := by
    rw [Inspector.answer, Inspector.detail, htree]
    simp only [bind, Except.bind, tree.detail_of_fault hnode hfault]
    rfl
  exact h.run_fails (Places.ofArguments_anatomy h.fragments_ne h.config_ne hname) hanswer

end Environment.Opens

/-- Where a run opens a package and its merged tree is accepted, the listing of all prototypes shows
each with its anatomy. The command for a single anatomy shows the same one exactly when all numbers
in the prototype are finite. Otherwise it fails with the report of the first that is not, although
anatomies do not depend on literals. -/
theorem anatomy_shown_iff_finite {environment : Environment} {places : Places}
    {inspector : Inspector} {package : String} {tree : Tree}
    (hopens : environment.Opens places inspector package)
    (htree : inspector.mergedTree package = .ok tree) :
    ∃ listed : Keyed Value,
      environment.run (places.arguments ++ ["list", "--all", "--format", "json"]) =
        printed (.record listed) ∧
      listed.keys = tree.prototypeNames ∧
      ∀ name node, tree.prototypes.find? name = some node → name.toList.head? ≠ some '-' →
        listed.find? name =
          some (.record [("node", node.toValue), ("anatomy", node.anatomy.toValue)]) ∧
        (node.Everywhere Node.HasFiniteValue →
          environment.run (places.arguments ++ ["anatomy", name, "--format", "json"]) =
            printed node.anatomy.toValue) ∧
        (¬node.Everywhere Node.HasFiniteValue →
          ∃ fault, ReportsFirstNonFinite (.prototype name) (node.located []) fault ∧
            environment.run (places.arguments ++ ["anatomy", name, "--format", "json"]) =
              failureOutcome environment.terminal (.query fault)) := by
  refine ⟨_, hopens.run_listAll htree, ?_, fun name node hnode hname => ?_⟩
  · rw [Keyed.keys_mapValues, Tree.listing, Keyed.keys_mapValues, Tree.prototypeNames]
  obtain ⟨hfails, hreports⟩ := renderPrototype_reports inspector.settings.indent name node
  refine ⟨?_, fun hfinite => ?_, fun hinfinite => ?_⟩
  · exact tree.find?_listing hnode
  · cases hsource : SourceText.renderPrototype inspector.settings.indent name node with
    | ok source => exact hopens.run_anatomy htree hnode hname hsource
    | error fault => exact absurd hfinite (hfails.mp ⟨fault, hsource⟩)
  · obtain ⟨fault, hfault⟩ := hfails.mpr hinfinite
    exact ⟨fault, hreports fault hfault, hopens.run_anatomy_fails htree hnode hname hfault⟩

section Card

/-- A fragment with a card, whose ratio is no number, and an icon. -/
def cardFragment : String :=
  "prototypes: " ++
    ("\x7bCard: \x7btype: object, value: \x7bicon: " ++
      "\x7btype: reference, value: \x7bprototype: Icon\x7d\x7d, " ++
      "ratio: \x7btype: scalar, value: .nan\x7d\x7d\x7d, " ++
      "Icon: \x7btype: object, value: \x7b\x7d\x7d\x7d")

/-- A directory of fragments with a package that has a single file. -/
def cardFiles (content : ByteArray) : FileSystem :=
  { root := [("frag", .directory [("Site", .directory [("card.yaml", .file content)])])] }

/-- A machine with that directory of fragments and a user who has no settings. -/
def cardSite : Environment :=
  { files := cardFiles cardFragment.toUTF8 }

/-- The places at which a command line looks for that package. -/
def cardPlaces : Places :=
  { fragments := some "frag", package := some "Site" }

/-- The inspector that the commands open there. -/
def cardInspector : Inspector :=
  { source := .directory { files := cardSite.files, root := "frag" } }

/-- In these files, a path of names leads to what stands there. -/
theorem cardFiles_locate {content : ByteArray} {path : String} {entry : FileEntry}
    (hrelative : path.toList.head? ≠ some '/') (hsteps : ∀ step ∈ pathSteps path, LeadsDown step)
    (hbelow : FileSystem.entryBelow? (cardFiles content).root (pathSteps path) = some entry)
    (hentry : entry.IsNoLink) :
    (cardFiles content).locate path = .ok (pathSteps path, entry) :=
  FileSystem.locate_of_entryBelow? hrelative rfl hsteps hbelow hentry

/-- The run opens the inspector of the package that holds the card. -/
theorem cardSite_opens : cardSite.Opens cardPlaces cardInspector "Site" where
  settings := rfl
  source := by
    have hexists : cardSite.files.pathExists "frag" = true := congrArg Except.toBool
      (cardFiles_locate (by decide) (by decide) rfl fun _ => FileEntry.noConfusion)
    have hroot : cardSite.files.fragmentsRoot (some "frag") {} = .ok "frag" := if_pos hexists
    exact ⟨"frag", hroot, rfl⟩
  package := rfl

/-- The only fragment of the package is what its file holds. -/
theorem cardFiles_ofPackage {text : String} (hmark : text.toList.head? ≠ some '\ufeff')
    {tree : Tree} (htree : DataFormat.yaml.decode? Document.tree? text = some tree) :
    DirectoryFragments.ofPackage { files := cardFiles text.toUTF8, root := "frag" } "Site" =
      .ok [tree] := by
  have hdirectory : joinPath "frag" "Site" = "frag/Site" :=
    joinPath_eq (by decide) (by decide) (by decide)
  have hpath : joinPath "frag/Site" "card.yaml" = "frag/Site/card.yaml" :=
    joinPath_eq (by decide) (by decide) (by decide)
  have hlist : (cardFiles text.toUTF8).list "frag/Site" =
      .ok (["frag", "Site"], [("card.yaml", .file text.toUTF8)]) := by
    rw [FileSystem.list,
      cardFiles_locate (by decide) (by decide) rfl fun _ => FileEntry.noConfusion]
    rfl
  have hread : (cardFiles text.toUTF8).read "frag/Site/card.yaml" = .ok text.toUTF8 := by
    rw [FileSystem.read,
      cardFiles_locate (by decide) (by decide) rfl fun _ => FileEntry.noConfusion]
  exact DirectoryFragments.ofPackage_single (by decide) hdirectory hlist (by decide) hpath
    (FileSystem.readData_of_read hread hmark (by decide) htree)

/-- The merged tree of a package with a single fragment. -/
def mergedFragment (fragment : Tree) : Except Fault Tree := do
  let tree ← MergePolicy.override.merge [fragment]
  tree.validate
  return tree

/-- The merged tree of the package is that of its only fragment. -/
theorem cardInspector_mergedTree {fragment : Tree}
    (h : DataFormat.yaml.decode? Document.tree? cardFragment = some fragment) :
    cardInspector.mergedTree "Site" = mergedFragment fragment := by
  have hhead : cardFragment.toList.head? ≠ some '\ufeff' := by
    have hfirst : "prototypes: ".toList.head? = some 'p' := rfl
    rw [cardFragment, String.toList_append, List.head?_append, hfirst, Option.some_or]
    decide
  have hfragments : cardInspector.source.ofPackage "Site" = .ok [fragment] :=
    cardFiles_ofPackage hhead h
  rw [Inspector.mergedTree, FragmentSource.mergedTree, hfragments]
  rfl

/-- Whether a tree holds the card, which has no source text, and the icon, which has some. -/
def HoldsCard (tree : Tree) : Prop :=
  (∃ card ∈ tree.prototypes.find? "Card", card.anatomy.parts = [⟨"icon", "Icon"⟩] ∧
    SourceText.renderPrototype defaultIndent "Card" card =
      .error (.unsupportedLiteral ⟨.prototype "Card", ["ratio"]⟩ (.float (0.0 / 0.0)))) ∧
  ∃ icon ∈ tree.prototypes.find? "Icon",
    SourceText.renderPrototype defaultIndent "Icon" icon = .ok "prototype(Icon) \x7b\n\x7d\n"

instance : DecidablePred HoldsCard := fun _ => inferInstanceAs (Decidable (_ ∧ _))

/-- The package is accepted and holds the card and the icon. -/
theorem exists_cardTree : ∃ tree, cardInspector.mergedTree "Site" = .ok tree ∧ HoldsCard tree := by
  have hchecked : ∃ fragment ∈ DataFormat.yaml.decode? Document.tree? cardFragment,
      ∃ tree ∈ (mergedFragment fragment).toOption, HoldsCard tree := by
    decide +kernel
  obtain ⟨fragment, hfragment, tree, htree, hcard⟩ := hchecked
  refine ⟨tree, ?_, hcard⟩
  rw [cardInspector_mergedTree hfragment]
  cases hmerged : mergedFragment fragment with
  | ok merged =>
    rw [hmerged] at htree
    exact congrArg Except.ok (Option.some.inj htree)
  | error fault =>
    rw [hmerged] at htree
    cases htree

/-- The icon is shown by both views, and the card is only listed. -/
theorem anatomy_shown_iff_finite_of_card : ∃ (tree : Tree) (card icon : Node)
    (listed : Keyed Value),
    cardSite.Opens cardPlaces cardInspector "Site" ∧ cardInspector.mergedTree "Site" = .ok tree ∧
    cardSite.run (cardPlaces.arguments ++ ["list", "--all", "--format", "json"]) =
      printed (.record listed) ∧
    (tree.prototypes.find? "Icon" = some icon ∧
      listed.find? "Icon" =
        some (.record [("node", icon.toValue), ("anatomy", icon.anatomy.toValue)]) ∧
      cardSite.run (cardPlaces.arguments ++ ["anatomy", "Icon", "--format", "json"]) =
        printed icon.anatomy.toValue) ∧
    tree.prototypes.find? "Card" = some card ∧
      listed.find? "Card" =
        some (.record [("node", card.toValue), ("anatomy", card.anatomy.toValue)]) ∧
      ∃ fault, ReportsFirstNonFinite (.prototype "Card") (card.located []) fault ∧
        cardSite.run (cardPlaces.arguments ++ ["anatomy", "Card", "--format", "json"]) =
          failureOutcome {} (.query fault) := by
  obtain ⟨tree, htree, ⟨card, hcard, -, hfault⟩, icon, hicon, hsource⟩ := exists_cardTree
  obtain ⟨listed, hlisted, -, hshown⟩ := anatomy_shown_iff_finite cardSite_opens htree
  obtain ⟨hiconListed, hiconShown, -⟩ := hshown "Icon" icon hicon (by decide)
  obtain ⟨hcardListed, -, hcardFails⟩ := hshown "Card" card hcard (by decide)
  have hfinite : icon.Everywhere Node.HasFiniteValue := by
    by_contra hinfinite
    obtain ⟨fault, hfault⟩ := (renderPrototype_reports defaultIndent "Icon" icon).1.mpr hinfinite
    rw [hsource] at hfault
    cases hfault
  have hinfinite : ¬card.Everywhere Node.HasFiniteValue :=
    (renderPrototype_reports defaultIndent "Card" card).1.mp ⟨_, hfault⟩
  exact ⟨tree, card, icon, listed, cardSite_opens, htree, hlisted,
    ⟨hicon, hiconListed, hiconShown hfinite⟩, hcard, hcardListed, hcardFails hinfinite⟩

/-- The card is listed with its anatomy, and the command for its anatomy fails on the ratio. -/
theorem anatomy_fails_where_listed : ∃ (tree : Tree) (card : Node) (listed : Keyed Value),
    cardSite.Opens cardPlaces cardInspector "Site" ∧ cardInspector.mergedTree "Site" = .ok tree ∧
    tree.prototypes.find? "Card" = some card ∧ card.anatomy.parts = [⟨"icon", "Icon"⟩] ∧
    cardSite.run ["--fragments=frag", "--package=Site", "list", "--all", "--format", "json"] =
      printed (.record listed) ∧
    listed.find? "Card" =
      some (.record [("node", card.toValue), ("anatomy", card.anatomy.toValue)]) ∧
    cardSite.run ["--fragments=frag", "--package=Site", "anatomy", "Card", "--format", "json"] =
      { status := 1, errors := "❌ Unsupported literal at prototype(Card).ratio: float NaN\n" } := by
  obtain ⟨tree, htree, ⟨card, hcard, hparts, hfault⟩, -⟩ := exists_cardTree
  have hanatomy := cardSite_opens.run_anatomy_fails htree hcard (by decide) hfault
  have hmessage : failureOutcome {} (.query (.unsupportedLiteral ⟨.prototype "Card", ["ratio"]⟩
      (.float (0.0 / 0.0)))) =
      { status := 1, errors := "❌ Unsupported literal at prototype(Card).ratio: float NaN\n" } := by
    decide +kernel
  exact ⟨tree, card, _, cardSite_opens, htree, hcard, hparts, cardSite_opens.run_listAll htree,
    tree.find?_listing hcard, hanatomy.trans hmessage⟩

end Card

end ComponentAtlas

import ComponentAtlas.Proofs.PackageFaults

/-!
# Warnings about patterns

Settings warn about the global site and about each package with a section. The configuration in force
for any package is one of these, whatever its section inherits or replaces, so no package can have a
broken pattern without a warning. Where there is no warning, no query fails for a pattern.
-/

namespace ComponentAtlas

/-- Whether a fault is that of the first pattern of a site that does not compile, where the rules are
looked at before the hide patterns. -/
inductive Site.FirstBroken (site : Site) : Fault → Prop
  | rule {before after : List StructureRule} {rule : StructureRule} {fault : PatternFault}
      (hrules : site.rules = before ++ rule :: after)
      (hbefore : ∀ earlier ∈ before, ∃ regex, Regex.parse earlier.pattern = .ok regex)
      (hbroken : Regex.parse rule.pattern = .error fault) :
      FirstBroken site (.invalidPattern rule.pattern fault)
  | hidePattern {before after : List String} {pattern : String} {fault : GlobFault}
      (hrules : ∀ rule ∈ site.rules, ∃ regex, Regex.parse rule.pattern = .ok regex)
      (hpatterns : site.hidePatterns = before ++ pattern :: after)
      (hbefore : ∀ earlier ∈ before, ∃ glob, Glob.parse earlier = .ok glob)
      (hbroken : Glob.parse pattern = .error fault) :
      FirstBroken site (.invalidPattern pattern (.glob fault))

/-- A rule can be compiled exactly when its pattern can be read. -/
theorem StructureRule.exists_compile {rule : StructureRule} :
    (∃ compiled, rule.compile = .ok compiled) ↔ ∃ regex, Regex.parse rule.pattern = .ok regex := by
  rw [compile]
  cases Regex.parse rule.pattern <;> simp

/-- A rule fails to compile with the reason for which its pattern cannot be read. -/
theorem StructureRule.compile_eq_error {rule : StructureRule} {fault : Fault} :
    rule.compile = .error fault ↔
      ∃ reason, Regex.parse rule.pattern = .error reason ∧
        fault = .invalidPattern rule.pattern reason := by
  rw [compile]
  cases Regex.parse rule.pattern <;> simp [eq_comm]

/-- A hide pattern can be compiled exactly when it can be read as a glob. -/
theorem exists_compileHidePattern {pattern : String} :
    (∃ glob, compileHidePattern pattern = .ok glob) ↔ ∃ glob, Glob.parse pattern = .ok glob := by
  rw [compileHidePattern]
  cases Glob.parse pattern <;> simp

/-- A hide pattern fails to compile with the reason for which it cannot be read as a glob. -/
theorem compileHidePattern_eq_error {pattern : String} {fault : Fault} :
    compileHidePattern pattern = .error fault ↔
      ∃ reason, Glob.parse pattern = .error reason ∧
        fault = .invalidPattern pattern (.glob reason) := by
  rw [compileHidePattern]
  cases Glob.parse pattern <;> simp [eq_comm]

/-- Compiling a site stops at its first broken pattern. -/
theorem Site.firstBroken_of_classifier {site : Site} {fault : Fault}
    (h : site.classifier = .error fault) : site.FirstBroken fault := by
  rcases bind_eq_error.mp h with hrules | ⟨compiled, hrules, hrest⟩
  · obtain ⟨before, rule, after, hsplit, hbefore, hrule⟩ := mapM_eq_error.mp hrules
    obtain ⟨reason, hbroken, rfl⟩ := StructureRule.compile_eq_error.mp hrule
    exact .rule hsplit (fun earlier hearlier =>
      StructureRule.exists_compile.mp (hbefore earlier hearlier)) hbroken
  rcases bind_eq_error.mp hrest with hpatterns | ⟨_, _, hnone⟩
  · obtain ⟨before, pattern, after, hsplit, hbefore, hpattern⟩ := mapM_eq_error.mp hpatterns
    obtain ⟨reason, hbroken, rfl⟩ := compileHidePattern_eq_error.mp hpattern
    refine .hidePattern (fun rule hrule => ?_) hsplit (fun earlier hearlier =>
      exists_compileHidePattern.mp (hbefore earlier hearlier)) hbroken
    obtain ⟨result, hresult⟩ := exists_of_mapM_eq_ok hrules hrule
    exact StructureRule.exists_compile.mp ⟨result, hresult⟩
  · cases hnone

/-- A site with a broken pattern warns about it under the name of its section. -/
theorem Site.brokenPattern_mem_warnings {site : Site} {fault : Fault}
    (h : site.classifier = .error fault) (name : String) :
    Warning.brokenPattern name fault ∈ site.warnings name := by
  rw [warnings, h]
  exact List.mem_append_left _ (List.mem_singleton_self _)

namespace Settings

variable {settings : Settings}

/-- The section that the configuration in force for a package belongs to. -/
def sectionOf (settings : Settings) (package : String) : String :=
  if settings.packages.has package then package else globalSection

/-- All that is wrong with the configuration of a package is said about its section. -/
theorem warnings_siteOf_subset (settings : Settings) (package : String) :
    (settings.siteOf package).warnings (settings.sectionOf package) ⊆ settings.warnings := by
  intro warning hwarning
  rw [warnings, List.mem_append, List.mem_append]
  cases hfind : settings.packages.find? package with
  | none =>
    rw [siteOf, hfind, sectionOf, Keyed.has, hfind] at hwarning
    exact .inl (.inr hwarning)
  | some change =>
    rw [sectionOf, Keyed.has, hfind] at hwarning
    exact .inr (List.mem_flatMap.mpr ⟨package, Keyed.mem_keys_of_find? hfind, hwarning⟩)

/-- Without warnings the patterns of every package compile. -/
theorem exists_classifier (h : settings.warnings = []) (package : String) :
    ∃ classifier, (settings.siteOf package).classifier = .ok classifier := by
  cases hclassifier : (settings.siteOf package).classifier with
  | ok classifier => exact ⟨classifier, rfl⟩
  | error fault =>
    have hwarning := settings.warnings_siteOf_subset package
      (Site.brokenPattern_mem_warnings hclassifier _)
    rw [h] at hwarning
    cases hwarning

end Settings

namespace Inspector

variable {inspector : Inspector} {package : String}

/-- Where the patterns of a package compile, its catalog fails only if its merged tree does. -/
theorem catalog_fault {classifier : Classifier} (h : inspector.classifier package = .ok classifier)
    {fault : Fault} (hcatalog : inspector.catalog package = .error fault) :
    inspector.mergedTree package = .error fault := by
  rw [catalog, h] at hcatalog
  rcases bind_eq_error.mp hcatalog with hnone | ⟨_, _, hrest⟩
  · cases hnone
  rcases bind_eq_error.mp hrest with htree | ⟨_, _, hnone⟩
  · exact htree
  · cases hnone

/-- No merged tree is refused for a pattern. -/
theorem mergedTree_ne_invalidPattern (inspector : Inspector) (package pattern : String)
    (reason : PatternFault) :
    inspector.mergedTree package ≠ .error (.invalidPattern pattern reason) := by
  intro h
  rcases FragmentSource.mergedTree_fault h with hsource | ⟨_, _, _, hconflict⟩ | ⟨_, hname⟩
  · cases FragmentSource.ofPackage_fault hsource
  · cases hconflict
  · cases hname

end Inspector

/-- No broken package goes without a warning. Whatever package is asked for, if the patterns in force
for it do not all compile, the first that does not is the fault, and the warnings name it under the
section of the package, or under the global one where the package has none. So without warnings the
patterns of every package compile, and no query for a catalog or for groups fails for a pattern. -/
theorem Settings.warnings_cover_packages (settings : Settings) :
    (∀ package fault, (settings.siteOf package).classifier = .error fault →
      (settings.siteOf package).FirstBroken fault ∧
      settings.sectionOf package ++ ": " ++ fault.message ∈
        settings.warnings.map Warning.message) ∧
    (settings.warnings.map Warning.message = [] → ∀ package,
      (∃ classifier, (settings.siteOf package).classifier = .ok classifier) ∧
      ∀ source pattern reason,
        let inspector : Inspector := { source, settings }
        inspector.classifier package ≠ .error (.invalidPattern pattern reason) ∧
        inspector.catalog package ≠ .error (.invalidPattern pattern reason)) := by
  refine ⟨fun package fault h => ⟨Site.firstBroken_of_classifier h, ?_⟩, fun h package => ?_⟩
  · have hwarning := settings.warnings_siteOf_subset package (Site.brokenPattern_mem_warnings h _)
    exact List.mem_map.mpr ⟨_, hwarning, rfl⟩
  · obtain ⟨classifier, hclassifier⟩ :=
      exists_classifier (List.map_eq_nil_iff.mp h) package
    refine ⟨⟨classifier, hclassifier⟩, fun source pattern reason => ⟨?_, fun hcatalog => ?_⟩⟩
    · intro hfault
      cases hclassifier.symm.trans hfault
    · have hcompiled : (Inspector.mk source settings).classifier package = .ok classifier :=
        hclassifier
      exact Inspector.mergedTree_ne_invalidPattern _ package pattern reason
        (Inspector.catalog_fault hcompiled hcatalog)

/-- A shop whose section repairs the broken hide pattern of the global site and brings a broken rule
of its own, and a blog without a section. Settings without a broken pattern have no warning. -/
theorem Settings.warnings_cover_packages_of_shop :
    let opened : StructureRule := { pattern := "(Form", group := { label := "Forms" } }
    let settings : Settings :=
      { site := { hidePatterns := ["[oops"] }
        packages := [("Shop", { display := some { rules := some [opened] }
                                hidePatterns := some [] })] }
    let blogFault := Fault.invalidPattern "[oops" (.glob .range)
    let shopFault := Fault.invalidPattern "(Form" .regex
    let sound : Settings := { site := { hidePatterns := ["*:Internal.*"] } }
    ((settings.siteOf "Blog").classifier = .error blogFault ∧
        (settings.siteOf "Shop").classifier = .error shopFault ∧
        sound.warnings.map Warning.message = []) ∧
      "<global>: Invalid pattern '[oops': invalid range pattern" ∈
        settings.warnings.map Warning.message ∧
      "Shop: Invalid pattern '(Form': regex parse error" ∈
        settings.warnings.map Warning.message ∧
      ∀ package, ∃ classifier, (sound.siteOf package).classifier = .ok classifier := by
  intro opened settings blogFault shopFault sound
  have hblog : (settings.siteOf "Blog").classifier = .error blogFault := rfl
  have hshop : (settings.siteOf "Shop").classifier = .error shopFault := by
    have hparse : Regex.parse "(Form" = .error .regex := by rfl
    have hopened : opened.compile = .error shopFault := by rw [StructureRule.compile, hparse]
    change Classifier.compile [opened] [] = .error shopFault
    rw [Classifier.compile, List.mapM_cons, hopened]
    rfl
  have hsound : sound.warnings.map Warning.message = [] := by decide +kernel
  obtain ⟨hbroken, -⟩ := warnings_cover_packages settings
  obtain ⟨-, hcompile⟩ := warnings_cover_packages sound
  exact ⟨⟨hblog, hshop, hsound⟩, (hbroken "Blog" blogFault hblog).2,
    (hbroken "Shop" shopFault hshop).2, fun package => (hcompile hsound package).1⟩

end ComponentAtlas

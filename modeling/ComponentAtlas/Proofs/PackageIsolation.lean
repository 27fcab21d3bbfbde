import ComponentAtlas.Inspector
import ComponentAtlas.Proofs.KeyedLists

/-!
# Isolation of packages

Registering a fragment changes what is stored under its own package and nothing else. So the
fragments of a package are those registered for it, in their order, whatever is registered for other
packages in between, and every query about the package sees only these and the part of the settings
that concerns it.
-/

namespace ComponentAtlas

/-- Sorted texts are in ascending order. -/
theorem pairwise_le_sortedTexts (texts : List String) : (sortedTexts texts).Pairwise (· ≤ ·) := by
  have htrans : ∀ a b c : String, decide (a ≤ b) → decide (b ≤ c) → decide (a ≤ c) := by
    intro a b c hab hbc
    exact decide_eq_true (String.le_trans (of_decide_eq_true hab) (of_decide_eq_true hbc))
  have htotal : ∀ a b : String, decide (a ≤ b) || decide (b ≤ a) := by
    intro a b
    simpa using String.le_total a b
  exact (List.pairwise_mergeSort htrans htotal texts).imp of_decide_eq_true

/-- Texts without repetitions are in strictly ascending order once they are sorted. -/
theorem pairwise_lt_sortedTexts {texts : List String} (h : texts.Nodup) :
    (sortedTexts texts).Pairwise (· < ·) := by
  have hnodup : (sortedTexts texts).Nodup := (List.mergeSort_perm _ _).nodup_iff.mpr h
  refine ((pairwise_le_sortedTexts texts).and hnodup).imp ?_
  rintro a b ⟨hle, hne⟩
  exact Std.lt_of_le_of_ne hle hne

/-- The trees that a sequence of registrations holds for a package, in order. -/
def treesFor (package : String) (registrations : List (String × Tree)) : List Tree :=
  (registrations.filter fun registration => registration.1 = package).map Prod.snd

/-- A registration for the package comes first among its trees. -/
theorem treesFor_cons_self (package : String) (tree : Tree) (rest : List (String × Tree)) :
    treesFor package ((package, tree) :: rest) = tree :: treesFor package rest := by
  simp [treesFor]

/-- A registration for another package adds no tree. -/
theorem treesFor_cons_of_ne {package name : String} (h : name ≠ package) (tree : Tree)
    (rest : List (String × Tree)) :
    treesFor package ((name, tree) :: rest) = treesFor package rest := by
  simp [treesFor, h]

/-- A package has no trees when it is not among those that are registered. -/
theorem treesFor_eq_nil {package : String} {registrations : List (String × Tree)} :
    treesFor package registrations = [] ↔ package ∉ registrations.map Prod.fst := by
  rw [treesFor, List.map_eq_nil_iff, List.filter_eq_nil_iff, List.mem_map]
  constructor
  · rintro hnone ⟨registration, hmem, hname⟩
    exact hnone registration hmem (decide_eq_true hname)
  · intro hnone registration hmem hname
    exact hnone ⟨registration, hmem, of_decide_eq_true hname⟩

/-- What is registered for other packages does not count. -/
theorem treesFor_filter (package : String) (registrations : List (String × Tree)) :
    treesFor package (registrations.filter fun registration => registration.1 = package) =
      treesFor package registrations := by
  simp [treesFor, List.filter_filter]

namespace MemoryFragments

/-- What a sequence of registrations makes of given fragments. -/
def register (fragments : MemoryFragments) (registrations : List (String × Tree)) :
    MemoryFragments :=
  registrations.foldl (fun registered entry => registered.add entry.1 entry.2) fragments

/-- A registration puts a tree behind those of its package and leaves other packages alone. -/
theorem find?_add (fragments : MemoryFragments) (package : String) (tree : Tree) (query : String) :
    (fragments.add package tree).trees.find? query =
      if package = query then some ((fragments.trees.find? query).getD [] ++ [tree])
      else fragments.trees.find? query := by
  rw [add, Keyed.find?_insert]
  split
  · rename_i heq
    rw [heq]
  · rfl

/-- A sequence of registrations puts the trees for a package behind those that it had and leaves a
package for which there are none alone. -/
theorem find?_register (fragments : MemoryFragments) (registrations : List (String × Tree))
    (package : String) :
    (fragments.register registrations).trees.find? package =
      if treesFor package registrations = [] then fragments.trees.find? package
      else some ((fragments.trees.find? package).getD [] ++ treesFor package registrations) := by
  induction registrations generalizing fragments with
  | nil => rfl
  | cons registration rest ih =>
    obtain ⟨name, tree⟩ := registration
    have hstep : fragments.register ((name, tree) :: rest) =
        (fragments.add name tree).register rest := rfl
    rw [hstep, ih, find?_add]
    by_cases hname : name = package
    · subst hname
      rw [if_pos rfl, treesFor_cons_self, if_neg (List.cons_ne_nil _ _)]
      split
      · rename_i hnone
        rw [hnone]
      · rw [Option.getD_some, List.append_assoc, List.singleton_append]
    · rw [if_neg hname, treesFor_cons_of_ne hname]

/-- No package repeats among the trees, whatever is registered. -/
theorem distinct_register {fragments : MemoryFragments} (h : fragments.trees.Distinct)
    (registrations : List (String × Tree)) : (fragments.register registrations).trees.Distinct := by
  induction registrations generalizing fragments with
  | nil => exact h
  | cons registration rest ih => exact ih (h.insert _ _)

/-- The fragments that have been registered, one after the other, and no others. -/
def registered (registrations : List (String × Tree)) : MemoryFragments :=
  register {} registrations

variable (registrations : List (String × Tree))

/-- The packages are those for which something was registered, each once, in ascending order. -/
theorem packages_registered :
    (registered registrations).packages.Pairwise (· < ·) ∧
      ∀ name, name ∈ (registered registrations).packages ↔ name ∈ registrations.map Prod.fst := by
  have hdistinct : (registered registrations).trees.Distinct :=
    distinct_register Keyed.distinct_nil registrations
  refine ⟨pairwise_lt_sortedTexts hdistinct, fun name => ?_⟩
  have hmem : name ∈ (registered registrations).packages ↔
      name ∈ (registered registrations).trees.keys := List.mem_mergeSort
  rw [hmem, ← Keyed.find?_isSome, registered, find?_register]
  by_cases htrees : treesFor name registrations = []
  · rw [if_pos htrees]
    exact iff_of_false (by simp) (treesFor_eq_nil.mp htrees)
  · rw [if_neg htrees]
    exact iff_of_true rfl (Classical.not_not.mp (mt treesFor_eq_nil.mpr htrees))

/-- The fragments of a package are those registered for it, in order; a package for which nothing
was registered is unknown. -/
theorem ofPackage_registered (package : String) :
    (registered registrations).ofPackage package =
      if package ∈ registrations.map Prod.fst then .ok (treesFor package registrations)
      else .error (.unknownPackage package) := by
  rw [ofPackage, registered, find?_register]
  by_cases htrees : treesFor package registrations = []
  · rw [if_pos htrees, if_neg (treesFor_eq_nil.mp htrees)]
    rfl
  · have hmem := Classical.not_not.mp (mt treesFor_eq_nil.mpr htrees)
    rw [if_neg htrees, if_pos hmem]
    rfl

end MemoryFragments

/-- Whether settings are the same as far as they concern a package: they may differ in the default
package, in where fragments are found and in the sections of other packages. -/
structure Settings.AgreeOn (package : String) (left right : Settings) : Prop where
  mergePolicy : left.mergePolicy = right.mergePolicy
  maxDepth : left.maxDepth = right.maxDepth
  indent : left.indent = right.indent
  site : left.site = right.site
  override : left.packages.find? package = right.packages.find? package

/-- Settings that agree on a package have the same settings for it. -/
theorem Settings.AgreeOn.siteOf {package : String} {left right : Settings}
    (h : left.AgreeOn package right) : left.siteOf package = right.siteOf package := by
  rw [Settings.siteOf, Settings.siteOf, h.override, h.site]

namespace Inspector

/-- Whether two inspectors give the same answer or the same fault to every query about a package. -/
structure AnswersAlike (package : String) (left right : Inspector) : Prop where
  mergedTree : left.mergedTree package = right.mergedTree package
  listing : left.listing package = right.listing package
  renderPrototype : ∀ name, left.renderPrototype package name = right.renderPrototype package name
  renderPaths : left.renderPaths package = right.renderPaths package
  classifier : left.classifier package = right.classifier package
  catalog : left.catalog package = right.catalog package
  detail : ∀ name, left.detail package name = right.detail package name
  resolve : ∀ name depth, left.resolve package name depth = right.resolve package name depth
  viewports : left.viewports package = right.viewports package
  locales : left.locales package = right.locales package

/-- A query about a package looks at the fragments of the package and at the settings that concern
it, and at nothing else. -/
theorem answersAlike {package : String} {left right : Inspector}
    (hsource : left.source.ofPackage package = right.source.ofPackage package)
    (hsettings : left.settings.AgreeOn package right.settings) :
    AnswersAlike package left right := by
  have hmerged : left.mergedTree package = right.mergedTree package := by
    rw [Inspector.mergedTree, Inspector.mergedTree, FragmentSource.mergedTree,
      FragmentSource.mergedTree, hsource, hsettings.mergePolicy]
  have hclassifier : left.classifier package = right.classifier package := by
    rw [Inspector.classifier, Inspector.classifier, hsettings.siteOf]
  exact
    { mergedTree := hmerged
      listing := by rw [Inspector.listing, Inspector.listing, hmerged]
      renderPrototype := fun name => by
        rw [Inspector.renderPrototype, Inspector.renderPrototype, hmerged, hsettings.indent]
      renderPaths := by
        rw [Inspector.renderPaths, Inspector.renderPaths, hmerged, hsettings.indent]
      classifier := hclassifier
      catalog := by rw [Inspector.catalog, Inspector.catalog, hmerged, hclassifier]
      detail := fun name => by
        rw [Inspector.detail, Inspector.detail, hmerged, hsettings.indent]
      resolve := fun name depth => by
        rw [Inspector.resolve, Inspector.resolve, hmerged, hsettings.maxDepth]
      viewports := by rw [Inspector.viewports, Inspector.viewports, hsettings.siteOf]
      locales := by rw [Inspector.locales, Inspector.locales, hsettings.siteOf] }

end Inspector

/-- Packages do not influence each other. The packages of a source are those for which something was
registered, the fragments of each are those registered for it, and no query about a package can
tell the source from one that received only the package's own fragments, or the settings from others
that agree on what concerns the package. -/
theorem MemoryFragments.registered_isolated (registrations : List (String × Tree)) :
    (∃ names, (FragmentSource.memory (registered registrations)).packages = .ok names ∧
        names.Pairwise (· < ·) ∧ ∀ name, name ∈ names ↔ name ∈ registrations.map Prod.fst) ∧
      ∀ package,
        (FragmentSource.memory (registered registrations)).ofPackage package =
            (if package ∈ registrations.map Prod.fst then .ok (treesFor package registrations)
            else .error (.unknownPackage package)) ∧
          ∀ left right : Settings, left.AgreeOn package right →
            let own := registrations.filter fun registration => registration.1 = package
            Inspector.AnswersAlike package
              { source := .memory (registered registrations), settings := left }
              { source := .memory (registered own), settings := right } := by
  refine ⟨⟨_, rfl, packages_registered registrations⟩, fun package => ?_⟩
  refine ⟨ofPackage_registered registrations package, fun left right hagree => ?_⟩
  refine Inspector.answersAlike ?_ hagree
  change (registered registrations).ofPackage package = (registered _).ofPackage package
  have hmem : package ∈ (registrations.filter fun registration =>
      registration.1 = package).map Prod.fst ↔ package ∈ registrations.map Prod.fst := by
    rw [← Decidable.not_iff_not, ← treesFor_eq_nil, ← treesFor_eq_nil, treesFor_filter]
  simp only [ofPackage_registered, hmem, treesFor_filter]

/-- A shop that is registered between two fragments of a site, and settings that differ in the
section of the shop, in the default package and in where fragments are found. -/
theorem MemoryFragments.registered_isolated_of_shop :
    let base : Tree := { prototypes := [("Site:Card", .object [("title", .expression "a")])] }
    let site : Tree := { prototypes := [("Site:Card", .object [("title", .expression "b")])] }
    let shop : Tree := { prototypes := [("Site:Card", .expression "shop")] }
    let narrow : Settings := { maxDepth := 2, packages := [("Site", {})] }
    let wide : Settings :=
      { defaultPackage := some "Shop", fragmentsPath := some "fragments", maxDepth := 2
        packages := [("Shop", { hidePatterns := some ["*"] }), ("Site", {})] }
    narrow.AgreeOn "Site" wide ∧
      Inspector.AnswersAlike "Site"
        { source := .memory (registered [("Site", base), ("Shop", shop), ("Site", site)])
          settings := narrow }
        { source := .memory (registered [("Site", base), ("Site", site)]), settings := wide } := by
  intro base site shop narrow wide
  have hagree : narrow.AgreeOn "Site" wide := ⟨rfl, rfl, rfl, rfl, rfl⟩
  have hisolated := registered_isolated [("Site", base), ("Shop", shop), ("Site", site)]
  exact ⟨hagree, (hisolated.2 "Site").2 narrow wide hagree⟩

end ComponentAtlas

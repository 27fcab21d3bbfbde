import ComponentAtlas.CommandLine.Lookup
import ComponentAtlas.Proofs.DecodedTrees
import ComponentAtlas.Proofs.PackageIsolation
import ComponentAtlas.Proofs.SettingsTransport

/-!
# Settings that are read

A number is read only if it fits into its word, a map is collected by writing one name after the
other, and packages are sorted when all of them are known. So the settings of a run are always ones
that can be written and read back.
-/

namespace ComponentAtlas

/-- Entries that are written one after the other have distinct names, and what holds of all of them
holds of those that remain. -/
theorem Keyed.distinct_ofList {α : Type} {p : String × α → Prop} {entries : List (String × α)}
    (h : ∀ entry ∈ entries, p entry) :
    (Keyed.ofList entries).Distinct ∧ ∀ entry ∈ Keyed.ofList entries, p entry := by
  have hwrite : ∀ {written : Keyed α}, written.Distinct → (∀ entry ∈ written, p entry) →
      let all := entries.foldl (fun written entry => written.insert entry.1 entry.2) written
      all.Distinct ∧ ∀ entry ∈ all, p entry := by
    induction entries with
    | nil => exact fun hdistinct hwritten => ⟨hdistinct, hwritten⟩
    | cons entry rest ih =>
      obtain ⟨hentry, hrest⟩ := List.forall_mem_cons.mp h
      exact fun hdistinct hwritten =>
        ih hrest (hdistinct.insert _ _) (Keyed.forall_mem_insert hwritten hentry)
  exact hwrite Keyed.distinct_nil fun _ hentry => absurd hentry List.not_mem_nil

/-- Entries with distinct names stand in strictly ascending order once they are sorted. -/
theorem Keyed.pairwise_lt_sorted {α : Type} {entries : Keyed α} (h : entries.Distinct) :
    entries.sorted.keys.Pairwise (· < ·) := by
  have hkeys : entries.sorted.keys = sortedTexts entries.keys :=
    List.map_mergeSort fun _ _ _ _ => rfl
  rw [hkeys]
  exact pairwise_lt_sortedTexts h

/-- What holds of all that a step decodes holds of what the items of a list are decoded to. -/
theorem forall_mem_of_mapM_eq_some {α β : Type} {decode : α → Option β} {p : β → Prop}
    (hdecode : ∀ {item value}, decode item = some value → p value) {items : List α}
    {values : List β} (h : items.mapM decode = some values) : ∀ value ∈ values, p value := by
  induction items generalizing values with
  | nil =>
    cases h
    exact fun _ hvalue => absurd hvalue List.not_mem_nil
  | cons item rest ih =>
    rw [List.mapM_cons] at h
    obtain ⟨value, hvalue, hrest⟩ := Option.bind_eq_some_iff.mp h
    obtain ⟨others, hothers, hvalues⟩ := Option.bind_eq_some_iff.mp hrest
    cases hvalues
    exact List.forall_mem_cons.mpr ⟨hdecode hvalue, ih hothers⟩

/-- A map without screen sizes fits. -/
theorem viewportsFit_nil : ViewportsFit [] :=
  ⟨Keyed.distinct_nil, fun _ hentry => absurd hentry List.not_mem_nil⟩

/-- A site without any configuration is representable. -/
theorem Site.isRepresentable_empty : Site.IsRepresentable {} :=
  ⟨viewportsFit_nil, Keyed.distinct_nil⟩

namespace Document

variable {dialect : Dialect} {document : Document}

/-- A number is read up to its limit only. -/
theorem le_of_natural? {limit n : Nat} (h : document.natural? dialect limit = some n) :
    n ≤ limit := by
  unfold natural? at h
  split at h
  · split at h
    · rename_i hfits
      cases h
      exact Int.toNat_le.mpr hfits.2
    · cases h
  · split at h
    · split at h
      · rename_i hfits
        cases h
        exact Int.toNat_le.mpr hfits.2.1
      · cases h
    · cases h
  · cases h

section Values

variable {α : Type} {decode : Document → Option α} {p : α → Prop}
  (hdecode : ∀ {document value}, decode document = some value → p value)

include hdecode

/-- What holds of all values that are decoded holds of one that may be absent. -/
theorem of_optional? {found : Option α} (h : document.optional? dialect decode = some found) :
    ∀ value ∈ found, p value := by
  unfold optional? at h
  split at h
  · cases h
    exact fun _ hnone => by cases hnone
  · obtain ⟨value, hvalue, rfl⟩ := Option.map_eq_some_iff.mp h
    rintro _ ⟨⟩
    exact hdecode hvalue
  · cases h

/-- What holds of the default and of all values that are decoded holds of a field. -/
theorem Field.of_withDefault {default value : α} (hdefault : p default) {field : Field}
    (h : field.withDefault default decode = some value) : p value := by
  cases field with
  | present content => exact hdecode h
  | absent | cut =>
    cases h
    exact hdefault

/-- What holds of all values that are decoded holds of a field that may be left out. -/
theorem Field.of_optional {field : Field} {found : Option α}
    (h : field.optional dialect decode = some found) : ∀ value ∈ found, p value := by
  cases field with
  | present content => exact of_optional? hdecode h
  | absent =>
    cases h
    exact fun _ hnone => by cases hnone
  | cut => cases h

/-- A map that is read repeats no name, and what holds of all values that are decoded holds of those
in it. -/
theorem of_keyed? {entries : Keyed α} (h : document.keyed? dialect decode = some entries) :
    entries.Distinct ∧ ∀ entry ∈ entries, p entry.2 := by
  obtain ⟨table, -, hentries⟩ := Option.bind_eq_some_iff.mp h
  obtain ⟨decoded, hdecoded, hwritten⟩ := Option.bind_eq_some_iff.mp hentries
  cases hwritten
  refine Keyed.distinct_ofList (forall_mem_of_mapM_eq_some (fun hentry => ?_) hdecoded)
  obtain ⟨name, -, hrest⟩ := Option.bind_eq_some_iff.mp hentry
  obtain ⟨value, hvalue, hpair⟩ := Option.bind_eq_some_iff.mp hrest
  cases hpair
  exact hdecode hvalue

end Values

/-- The sizes of a screen that is read fit. -/
theorem fits_of_viewport? {preset : ViewportPreset}
    (h : document.viewport? dialect = some preset) : preset.Fits := by
  have hsize : ∀ {field : Field} {size : Option Nat},
      field.withDefault none (optional? dialect (natural? dialect word32)) = some size →
        ∀ n ∈ size, n ≤ word32 := fun hfield =>
    Field.of_withDefault (of_optional? le_of_natural?) (fun _ hnone => by cases hnone) hfield
  obtain ⟨fields, -, hfields⟩ := Option.bind_eq_some_iff.mp h
  split at hfields
  · simp only [Option.bind_eq_bind, Option.bind_eq_some_iff] at hfields
    obtain ⟨label, -, width, hwidth, height, hheight, hpreset⟩ := hfields
    cases hpreset
    exact ⟨hsize hwidth, hsize hheight⟩
  · cases hfields

/-- A map of screens that is read fits. -/
theorem viewportsFit_of_keyed? {viewports : Keyed ViewportPreset}
    (h : document.keyed? dialect (viewport? dialect) = some viewports) : ViewportsFit viewports :=
  have hboth := of_keyed? fits_of_viewport? h
  ⟨hboth.1, hboth.2⟩

/-- A map of locales that is read repeats no name. -/
theorem distinct_of_locales {locales : Keyed LocalePreset}
    (h : document.keyed? dialect (locale? dialect) = some locales) : locales.Distinct :=
  (of_keyed? (p := fun _ => True) (fun _ => trivial) h).1

/-- The display of a site that is read is representable. -/
theorem isRepresentable_of_display? {site : Site} (h : document.display? dialect = some site) :
    site.IsRepresentable := by
  obtain ⟨fields, -, hfields⟩ := Option.bind_eq_some_iff.mp h
  split at hfields
  · simp only [Option.bind_eq_bind, Option.bind_eq_some_iff] at hfields
    obtain ⟨rules, -, viewports, hviewports, locales, hlocales, hsite⟩ := hfields
    cases hsite
    exact ⟨Field.of_withDefault viewportsFit_of_keyed? viewportsFit_nil hviewports,
      Field.of_withDefault distinct_of_locales Keyed.distinct_nil hlocales⟩
  · cases hfields

/-- A site that is read is representable. -/
theorem isRepresentable_of_site? {site : Site} (h : document.site? dialect = some site) :
    site.IsRepresentable := by
  obtain ⟨fields, -, hfields⟩ := Option.bind_eq_some_iff.mp h
  split at hfields
  · simp only [Option.bind_eq_bind, Option.bind_eq_some_iff] at hfields
    obtain ⟨display, hdisplay, patterns, -, hsite⟩ := hfields
    cases hsite
    have hshown := Field.of_withDefault isRepresentable_of_display?
      Site.isRepresentable_empty hdisplay
    exact ⟨hshown.viewports, hshown.locales⟩
  · cases hfields

/-- The override of a display that is read is representable. -/
theorem isRepresentable_of_displayOverride? {display : DisplayOverride}
    (h : document.displayOverride? dialect = some display) : display.IsRepresentable := by
  obtain ⟨fields, -, hfields⟩ := Option.bind_eq_some_iff.mp h
  split at hfields
  · simp only [Option.bind_eq_bind, Option.bind_eq_some_iff] at hfields
    obtain ⟨rules, -, viewports, hviewports, locales, hlocales, hdisplay⟩ := hfields
    cases hdisplay
    exact ⟨Field.of_optional viewportsFit_of_keyed? hviewports,
      Field.of_optional distinct_of_locales hlocales⟩
  · cases hfields

/-- The display in the override of a package that is read is representable. -/
theorem isRepresentable_of_siteOverride? {change : SiteOverride}
    (h : document.siteOverride? dialect = some change) :
    ∀ display ∈ change.display, display.IsRepresentable := by
  obtain ⟨fields, -, hfields⟩ := Option.bind_eq_some_iff.mp h
  split at hfields
  · simp only [Option.bind_eq_bind, Option.bind_eq_some_iff] at hfields
    obtain ⟨display, hdisplay, patterns, -, hchange⟩ := hfields
    cases hchange
    exact Field.of_optional isRepresentable_of_displayOverride? hdisplay
  · cases hfields

/-- Settings that are read are representable. -/
theorem isRepresentable_of_settings? {settings : Settings}
    (h : document.settings? dialect = some settings) : settings.IsRepresentable := by
  obtain ⟨fields, -, hfields⟩ := Option.bind_eq_some_iff.mp h
  split at hfields
  · simp only [Option.bind_eq_bind, Option.bind_eq_some_iff] at hfields
    obtain ⟨packages, hpackages, _, -, _, -, _, -, depth, hdepth, _, -, site, hsite, hsettings⟩ :=
      hfields
    cases hsettings
    have hoverrides := Field.of_withDefault (of_keyed? isRepresentable_of_siteOverride?)
      ⟨Keyed.distinct_nil, fun _ hentry => absurd hentry List.not_mem_nil⟩ hpackages
    refine ⟨Field.of_withDefault le_of_natural? (by decide) hdepth,
      Field.of_withDefault isRepresentable_of_site? Site.isRepresentable_empty hsite,
      Keyed.pairwise_lt_sorted hoverrides.1, fun entry hentry => ?_⟩
    exact hoverrides.2 entry (List.mem_mergeSort.mp hentry)
  · cases hfields

end Document

namespace FileSystem

variable {files : FileSystem} {settings : Settings}

/-- Settings that are loaded from a file are representable. -/
theorem isRepresentable_of_loadSettings {path : String}
    (h : files.loadSettings path = .ok settings) : settings.IsRepresentable := by
  rw [loadSettings] at h
  cases hread : files.readData Document.settings? path with
  | error fault =>
    rw [hread] at h
    cases h
  | ok found =>
    rw [hread] at h
    cases h
    obtain ⟨dialect, document, hdecode⟩ := exists_decode_of_readData hread
    exact Document.isRepresentable_of_settings? hdecode

/-- The settings of a run can be written and read back, whether they are loaded from a file or are
the defaults. -/
theorem isRepresentable_of_settings {named userFile : Option String}
    (h : files.settings named userFile = .ok settings) : settings.IsRepresentable := by
  unfold FileSystem.settings at h
  split at h
  · split at h
    · exact isRepresentable_of_loadSettings h
    · cases h
  · split at h
    · exact isRepresentable_of_loadSettings h
    · cases h
      refine ⟨by decide, Site.isRepresentable_empty, List.Pairwise.nil, ?_⟩
      exact fun _ hentry => absurd hentry List.not_mem_nil

end FileSystem

end ComponentAtlas

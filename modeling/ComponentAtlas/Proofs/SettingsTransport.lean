import ComponentAtlas.Proofs.ValueTransport

/-!
# Settings in JSON

All parts of settings are written, absent ones as null, and read back as themselves: rules and
patterns in order, presets and locales in the order of their maps, and packages in the order of
their names. Settings nest seven levels deep at most, whatever they hold.
-/

namespace ComponentAtlas

/-- Whether the sizes of a screen fit into words of 32 bits, as sizes in a program do. -/
structure ViewportPreset.Fits (preset : ViewportPreset) : Prop where
  width : ∀ width ∈ preset.width, width ≤ Document.word32
  height : ∀ height ∈ preset.height, height ≤ Document.word32

/-- Whether a map of screen sizes repeats no name and all its sizes fit. -/
structure ViewportsFit (viewports : Keyed ViewportPreset) : Prop where
  distinct : viewports.Distinct
  fits : ∀ entry ∈ viewports, entry.2.Fits

/-- Whether the maps of a site repeat no name and its sizes fit. -/
structure Site.IsRepresentable (site : Site) : Prop where
  viewports : ViewportsFit site.viewports
  locales : site.locales.Distinct

/-- Whether the maps that an override gives repeat no name and its sizes fit. -/
structure DisplayOverride.IsRepresentable (display : DisplayOverride) : Prop where
  viewports : ∀ viewports ∈ display.viewports, ViewportsFit viewports
  locales : ∀ locales ∈ display.locales, locales.Distinct

/-- Whether numbers of settings fit into words, their maps repeat no name, and their packages stand
in ascending order. All settings in a program are like this: their maps are keyed by name, and the
map of packages is sorted. -/
structure Settings.IsRepresentable (settings : Settings) : Prop where
  maxDepth : settings.maxDepth ≤ Document.word64
  site : settings.site.IsRepresentable
  ascending : settings.packages.keys.Pairwise (· < ·)
  overrides : ∀ entry ∈ settings.packages, ∀ display ∈ entry.2.display, display.IsRepresentable

/-- Settings as they are in a program. -/
structure RepresentableSettings extends Settings where
  representable : toSettings.IsRepresentable

/-- The value of a rule carries the rule. -/
theorem carries_rule (rule : StructureRule) :
    Carries rule.toValue 1 (Document.rule? .json) rule := by
  refine ⟨Value.travels_record ?_, rfl⟩
  simp [Value.travels_text]

/-- The value of rules carries them in their order. -/
theorem carries_rules (rules : List StructureRule) :
    Carries (rulesValue rules) 2 (Document.rules? .json) rules :=
  carries_list fun rule _ => carries_rule rule

/-- What the record of a screen says about one of its sizes. -/
def sizeField (size : Option Nat) : Document.Field :=
  (size.map fun n => .present (natValue n).toDocument).getD .absent

/-- A size that fits into its word is decoded from its field, whether there is one or not. -/
theorem withDefault_sizeField {size : Option Nat} (h : ∀ n ∈ size, n ≤ Document.word32) :
    (sizeField size).withDefault none
      (Document.optional? .json (Document.natural? .json Document.word32)) = some size := by
  cases size with
  | none => rfl
  | some n =>
    have hdecode := (carries_natural (h n rfl) (by decide)).decode_eq
    exact congrArg (Option.map some) hdecode

/-- The field of a size travels whether there is one or not. -/
theorem travels_sizeField (name : String) {size : Option Nat}
    (h : ∀ n ∈ size, n ≤ Document.word32) :
    ∀ field ∈ Value.optionalField name (size.map natValue), field.2.Travels 0 := by
  apply Value.travels_optionalField
  intro value hvalue
  obtain ⟨n, hn, rfl⟩ := Option.map_eq_some_iff.mp hvalue
  exact (carries_natural (h n hn) (by decide)).toTravels

/-- A screen is carried with the sizes that it has; the others are not written. -/
theorem carries_viewport {preset : ViewportPreset} (h : preset.Fits) :
    Carries preset.toValue 1 (Document.viewport? .json) preset := by
  have hwidth := withDefault_sizeField h.width
  have hheight := withDefault_sizeField h.height
  refine ⟨Value.travels_record ?_, ?_⟩
  · rw [List.cons_append, List.forall_mem_cons, List.forall_mem_append]
    exact ⟨Value.travels_text preset.label, travels_sizeField "width" h.width,
      travels_sizeField "height" h.height⟩
  · have hrecord : preset.toValue.toDocument.record? .json ["label", "width", "height"] =
        some [.present (.text preset.label), sizeField preset.width, sizeField preset.height] := by
      obtain ⟨label, width, height⟩ := preset
      cases width <;> cases height <;> rfl
    rw [Document.viewport?, hrecord]
    simp [Document.Field.required, hwidth, hheight]

/-- A locale is carried with those to fall back to, which are not written if there are none. -/
theorem carries_locale (preset : LocalePreset) :
    Carries preset.toValue 2 (Document.locale? .json) preset := by
  obtain ⟨label, fallback⟩ := preset
  have hfallback := carries_texts fallback
  refine ⟨Value.travels_record ?_, ?_⟩
  · rw [List.forall_mem_cons]
    refine ⟨Value.travels_text label, ?_⟩
    split
    · simp
    · exact List.forall_mem_singleton.mpr hfallback.toTravels
  · cases fallback with
    | nil => rfl
    | cons first rest =>
      have hrecord : (LocalePreset.toValue ⟨label, first :: rest⟩).toDocument.record? .json
          ["label", "fallback"] =
          some [.present (.text label), .present (Value.texts (first :: rest)).toDocument] := rfl
      rw [Document.locale?, hrecord]
      simp [Document.Field.required, Document.Field.withDefault, hfallback.decode_eq]

/-- The value of viewports carries them when they fit. -/
theorem carries_viewports {viewports : Keyed ViewportPreset} (h : ViewportsFit viewports) :
    Carries (Keyed.toValue ViewportPreset.toValue viewports) 2
      (Document.keyed? .json (Document.viewport? .json)) viewports :=
  carries_keyed h.distinct fun entry hentry => carries_viewport (h.fits entry hentry)

/-- The value of locales carries them when no name repeats. -/
theorem carries_locales {locales : Keyed LocalePreset} (h : locales.Distinct) :
    Carries (Keyed.toValue LocalePreset.toValue locales) 3
      (Document.keyed? .json (Document.locale? .json)) locales :=
  carries_keyed h fun entry _ => carries_locale entry.2

/-- An override of a display is carried with null for what it leaves alone. -/
theorem carries_displayOverride {display : DisplayOverride} (h : display.IsRepresentable) :
    Carries display.toValue 4 (Document.displayOverride? .json) display := by
  have hrules : Carries ((display.rules.map rulesValue).getD .null) 2
      (Document.optional? .json (Document.rules? .json)) display.rules :=
    carries_optional fun rules _ => ⟨by simp [rulesValue], carries_rules rules⟩
  have hviewports : Carries
      ((display.viewports.map (Keyed.toValue ViewportPreset.toValue)).getD .null) 2
      (Document.optional? .json (Document.keyed? .json (Document.viewport? .json)))
      display.viewports :=
    carries_optional fun viewports hsome =>
      ⟨by simp [Keyed.toValue], carries_viewports (h.viewports viewports hsome)⟩
  have hlocales : Carries
      ((display.locales.map (Keyed.toValue LocalePreset.toValue)).getD .null) 3
      (Document.optional? .json (Document.keyed? .json (Document.locale? .json)))
      display.locales :=
    carries_optional fun locales hsome =>
      ⟨by simp [Keyed.toValue], carries_locales (h.locales locales hsome)⟩
  refine ⟨Value.travels_record ?_, ?_⟩
  · simp only [List.forall_mem_cons]
    exact ⟨hrules.mono (by decide), hviewports.mono (by decide), hlocales.toTravels, by simp⟩
  · have hrecord : display.toValue.toDocument.record? .json Document.displayFields =
        some [.present ((display.rules.map rulesValue).getD .null).toDocument,
          .present ((display.viewports.map (Keyed.toValue ViewportPreset.toValue)).getD
            .null).toDocument,
          .present ((display.locales.map (Keyed.toValue LocalePreset.toValue)).getD
            .null).toDocument] := rfl
    rw [Document.displayOverride?, hrecord]
    simp [Document.Field.optional, hrules.decode_eq, hviewports.decode_eq, hlocales.decode_eq]

/-- A site is carried by a record of its display and its patterns. The reader of the display does
not know the patterns, so they are put in afterwards. -/
theorem carries_site {site : Site} (h : site.IsRepresentable) :
    Carries site.toValue 5 (Document.site? .json) site := by
  have hrules := carries_rules site.rules
  have hviewports := carries_viewports h.viewports
  have hlocales := carries_locales h.locales
  have hpatterns := carries_texts site.hidePatterns
  let display : DisplayOverride :=
    { rules := some site.rules, viewports := some site.viewports, locales := some site.locales }
  have hdisplay : Carries display.toValue 4 (Document.display? .json)
      { site with hidePatterns := [] } := by
    refine ⟨Value.travels_record ?_, ?_⟩
    · simp only [List.forall_mem_cons]
      exact ⟨hrules.mono (by decide), hviewports.mono (by decide), hlocales.toTravels, by simp⟩
    · have hrecord : display.toValue.toDocument.record? .json Document.displayFields =
          some [.present (rulesValue site.rules).toDocument,
            .present (Keyed.toValue ViewportPreset.toValue site.viewports).toDocument,
            .present (Keyed.toValue LocalePreset.toValue site.locales).toDocument] := rfl
      rw [Document.display?, hrecord]
      simp [Document.Field.withDefault, hrules.decode_eq, hviewports.decode_eq, hlocales.decode_eq]
  refine ⟨Value.travels_record ?_, ?_⟩
  · simp only [List.forall_mem_cons]
    exact ⟨hdisplay.toTravels, hpatterns.mono (by decide), by simp⟩
  · have hrecord : site.toValue.toDocument.record? .json Document.siteFields =
        some [.present display.toValue.toDocument,
          .present (Value.texts site.hidePatterns).toDocument] := rfl
    rw [Document.site?, hrecord]
    simp [Document.Field.withDefault, hdisplay.decode_eq, hpatterns.decode_eq]

/-- The override of a package is carried with null for what it leaves alone. -/
theorem carries_siteOverride {change : SiteOverride}
    (h : ∀ display ∈ change.display, display.IsRepresentable) :
    Carries change.toValue 5 (Document.siteOverride? .json) change := by
  have hdisplay : Carries ((change.display.map DisplayOverride.toValue).getD .null) 4
      (Document.optional? .json (Document.displayOverride? .json)) change.display :=
    carries_optional fun display hsome =>
      ⟨by simp [DisplayOverride.toValue], carries_displayOverride (h display hsome)⟩
  have hpatterns : Carries ((change.hidePatterns.map Value.texts).getD .null) 1
      (Document.optional? .json (Document.texts? .json)) change.hidePatterns :=
    carries_optional fun patterns _ => ⟨by simp [Value.texts], carries_texts patterns⟩
  refine ⟨Value.travels_record ?_, ?_⟩
  · simp only [List.forall_mem_cons]
    exact ⟨hdisplay.toTravels, hpatterns.mono (by decide), by simp⟩
  · have hrecord : change.toValue.toDocument.record? .json Document.siteFields =
        some [.present ((change.display.map DisplayOverride.toValue).getD .null).toDocument,
          .present ((change.hidePatterns.map Value.texts).getD .null).toDocument] := rfl
    rw [Document.siteOverride?, hrecord]
    simp [Document.Field.optional, hdisplay.decode_eq, hpatterns.decode_eq]

/-- Entries in ascending order stay in order. -/
theorem Keyed.sorted_eq {α : Type} {entries : Keyed α} (h : entries.keys.Pairwise (· < ·)) :
    entries.sorted = entries := by
  apply List.mergeSort_of_pairwise
  apply (List.pairwise_map.mp h).imp
  intro left right hlt
  exact decide_eq_true (Std.le_of_lt hlt)

/-- Entries in ascending order repeat no name. -/
theorem Keyed.distinct_of_pairwise {α : Type} {entries : Keyed α}
    (h : entries.keys.Pairwise (· < ·)) : entries.Distinct :=
  h.imp fun hlt => Std.ne_of_lt hlt

/-- The value of a text that may be missing carries it. -/
theorem carries_optionalText (text : Option String) :
    Carries (.optionalText text) 0 (Document.optional? .json (Document.text? .json)) text :=
  carries_optional fun text _ => ⟨by simp, carries_text text⟩

/-- Settings are carried in full; only the order of packages is not kept but restored by sorting. -/
theorem carries_settings (settings : RepresentableSettings) :
    Carries settings.toValue 7 (Document.settings? .json) settings.toSettings := by
  have h := settings.representable
  have hpackage := carries_optionalText settings.defaultPackage
  have hpath := carries_optionalText settings.fragmentsPath
  have hdepth := carries_natural h.maxDepth le_rfl
  have hsite := carries_site h.site
  have hpackages : Carries (settings.packages.toValue SiteOverride.toValue) 6
      (Document.keyed? .json (Document.siteOverride? .json)) settings.packages :=
    carries_keyed (Keyed.distinct_of_pairwise h.ascending) fun entry hentry =>
      carries_siteOverride (h.overrides entry hentry)
  have hindent : (Value.record [("indent", .text settings.indent)]).Travels 1 :=
    Value.travels_record (by simp [Value.travels_text])
  refine ⟨Value.travels_record ?_, ?_⟩
  · simp only [List.forall_mem_cons]
    exact ⟨hpackage.mono (by decide), hpath.mono (by decide), Value.travels_text _,
      hdepth.mono (by decide), hindent.mono (by decide), hsite.mono (by decide),
      hpackages.toTravels, by simp⟩
  · have hrecord : settings.toValue.toDocument.record? .json
        ["defaultPackage", "fragmentsPath", "mergePolicy", "maxDepth", "render", "site",
          "packages"] =
        some [.present (Value.optionalText settings.defaultPackage).toDocument,
          .present (Value.optionalText settings.fragmentsPath).toDocument,
          .present (.text settings.mergePolicy.name),
          .present (natValue settings.maxDepth).toDocument,
          .present (Value.record [("indent", .text settings.indent)]).toDocument,
          .present settings.site.toValue.toDocument,
          .present (settings.packages.toValue SiteOverride.toValue).toDocument] := rfl
    have hpolicy : Document.policy? .json (.text settings.mergePolicy.name) =
        some settings.mergePolicy := by
      cases settings.mergePolicy <;> decide
    have hrender : Document.indent? .json
        (Value.record [("indent", .text settings.indent)]).toDocument = some settings.indent := rfl
    rw [Document.settings?, hrecord]
    simp [Document.Field.withDefault, hpackage.decode_eq, hpath.decode_eq, hpolicy,
      hdepth.decode_eq, hrender, hsite.decode_eq, hpackages.decode_eq,
      Keyed.sorted_eq h.ascending]

end ComponentAtlas

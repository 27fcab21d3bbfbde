import ComponentAtlas.Proofs.SettingsTransport
import ComponentAtlas.Proofs.TreeTransport

/-!
# Lossless transport in JSON

Trees and settings come back from both layouts of their JSON as they were, with the order of all
their maps. For trees this needs that the text does not nest too deep and that the reader finds
every double again, which it does not for all of them.
-/

namespace ComponentAtlas

/-- A tree whose doubles are found again travels as deep as its value nests. -/
theorem carries_tree {tree : DistinctTree} (hfinite : tree.EveryFloat fun x => x.isFinite)
    (hkeeps : tree.EveryFloat fun x => Json.keepsFloat x) :
    Carries tree.toValue tree.toValue.nesting (Document.tree? .json) tree.toTree :=
  ⟨⟨le_rfl, Tree.isReadable_toValue hfinite hkeeps⟩, Document.tree?_toValue tree⟩

/-- Trees and settings are decoded from their JSON as they were written. -/
theorem json_lossless :
    (∀ tree : DistinctTree, tree.EveryFloat (fun x => x.isFinite) →
      tree.EveryFloat (fun x => Json.keepsFloat x) → tree.toValue.nesting ≤ Json.depthLimit →
      ∀ text ∈ [Json.compact tree.toValue, Json.indented 0 tree.toValue],
        DataFormat.json.decode? Document.tree? text = some tree.toTree) ∧
    ∀ settings : RepresentableSettings,
      ∀ text ∈ [Json.compact settings.toValue, Json.indented 0 settings.toValue],
        DataFormat.json.decode? Document.settings? text = some settings.toSettings := by
  constructor
  · intro tree hfinite hkeeps hnesting text htext
    exact (carries_tree hfinite hkeeps).decode?_eq hnesting htext
  · intro settings text htext
    exact (carries_settings settings).decode?_eq (by decide) htext

/-- A tree with a literal of every type, an instance without overrides, and directives. -/
def cardTree : Tree :=
  { paths := [("root", .object [("renderer", .reference "Vendor.Site:Card" [])])]
    prototypes := [("Vendor.Site:Card", .reference "Fusion:Tag" [
      ("width", .scalar (.float 2)), ("ratio", .scalar (.float 1.5)),
      ("count", .scalar (.integer Int64.minValue)), ("title", .scalar (.string "a \"b\"\n\x01é")),
      ("hidden", .scalar (.bool false)), ("note", .scalar .null),
      ("@if", .directives [("when", .expression "props.open")])])] }

/-- Settings with a rule, presets and the override of a package. -/
def cardSettings : Settings :=
  { defaultPackage := some "Vendor.Site"
    maxDepth := 3
    site :=
      { rules := [{ pattern := "^Vendor", group := { label := "Vendor" } }]
        viewports := [("phone", { label := "Phone", width := some 320 })]
        locales := [("en", { label := "English" }),
          ("de", { label := "German", fallback := ["en"] })] }
    packages := [("Vendor.Shop", { hidePatterns := some ["*:Legacy.*"] })] }

/-- A tree with a card is read back from indented text, and settings from compact text. -/
theorem json_lossless_of_card :
    DataFormat.json.decode? Document.tree? (Json.indented 0 cardTree.toValue) = some cardTree ∧
      DataFormat.json.decode? Document.settings? (Json.compact cardSettings.toValue) =
        some cardSettings := by
  constructor
  · exact json_lossless.1 ⟨cardTree, by decide⟩ (by decide +kernel) (by decide +kernel)
      (by decide) _ (by simp)
  · have hviewports : ViewportsFit cardSettings.site.viewports := by
      refine ⟨List.nodup_singleton _, List.forall_mem_singleton.mpr ⟨?_, ?_⟩⟩
      · rintro width ⟨⟩
        decide
      · rintro height ⟨⟩
    have hlocales : cardSettings.site.locales.Distinct := List.nodup_iff_pairwise_ne.mpr (by decide)
    have hoverrides : ∀ entry ∈ cardSettings.packages, ∀ display ∈ entry.2.display,
        display.IsRepresentable := by
      refine List.forall_mem_singleton.mpr ?_
      rintro display ⟨⟩
    exact json_lossless.2
      ⟨cardSettings, by decide, ⟨hviewports, hlocales⟩, by decide, hoverrides⟩ _ (by simp)

end ComponentAtlas

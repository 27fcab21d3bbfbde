import ComponentAtlas.Codec.Tree
import ComponentAtlas.Proofs.DistinctTrees
import ComponentAtlas.Proofs.ValueTransport

/-!
# Trees in JSON

A node is written as a record of its type and its value, and read back by its type. The entries of a
map are read in order, each new name behind those before it, so a map without repeated names keeps
its order. Overrides that are empty are not written and come back empty.
-/

namespace ComponentAtlas

namespace Document

/-- The name of a kind is read as the kind. -/
theorem kind?_name (kind : Kind) : kind? .json (.text kind.name) = some kind := by
  cases kind <;> decide

/-- A typed value is read by its type. -/
theorem node?_typedValue (kind : Kind) (value : Value) :
    node? .json (typedValue kind value).toDocument = payload? .json kind value.toDocument := by
  have htype : field? .json ["type", "value"] (.text "type") = some (some 0) := by decide
  have hvalue : field? .json ["type", "value"] (.text "value") = some (some 1) := by decide
  rw [typedValue, Value.toDocument, Value.fieldDocuments_eq, node?]
  simp only [List.map_cons, List.map_nil, Value.toDocument, nodeRecord, htype, hvalue, kind?_name]
  cases payload? .json kind value.toDocument <;> rfl

/-- The value of a literal is read as the literal. -/
theorem payload?_literal (literal : Literal) :
    payload? .json .scalar literal.toValue.toDocument = some (.scalar literal) := by
  cases literal with
  | null | bool _ | float _ | string _ => rfl
  | integer value =>
    have hlow := value.le_toInt
    have hhigh := value.toInt_lt
    have hfits : fitsSigned 64 value.toInt := by
      simp only [fitsSigned, Bool.and_eq_true, decide_eq_true_eq]
      exact ⟨hlow, hhigh⟩
    simp [Literal.toValue, Value.toDocument, payload?, leaf?, canBuffer, literal?, resolved, hfits]

/-- Named nodes are read as themselves, behind those read before. -/
theorem nodeEntries_entryValues (found : Keyed Node) {entries : Keyed Node}
    (hdistinct : Keyed.Distinct (found ++ entries))
    (h : ∀ entry ∈ entries, node? .json entry.2.toValue.toDocument = some entry.2) :
    nodeEntries .json found (Value.fieldDocuments (entryValues entries)) =
      some (found ++ entries) := by
  induction entries generalizing found with
  | nil =>
    rw [List.append_nil]
    rfl
  | cons entry entries ih =>
    obtain ⟨key, node⟩ := entry
    obtain ⟨hnode, hentries⟩ := List.forall_mem_cons.mp h
    have hnew := hdistinct.not_mem
    have hmore : found ++ (key, node) :: entries = found ++ [(key, node)] ++ entries := by simp
    rw [hmore] at hdistinct ⊢
    simp only [entryValues, Value.fieldDocuments, nodeEntries, text?_json, hnode,
      Keyed.insert_of_not_mem node hnew]
    exact ih _ hdistinct hentries

/-- A map without repeated names is read as itself. -/
theorem payload?_record {entries : Keyed Node}
    (h : nodeEntries .json [] (Value.fieldDocuments (entryValues entries)) = some entries) :
    payload? .json .object (Value.record (entryValues entries)).toDocument =
      some (.object entries) := by
  rw [Value.toDocument, payload?]
  simp only [h]
  rfl

/-- An instance is read as itself, also when its overrides are empty and not written. -/
theorem node?_reference {prototype : String} {overrides : Keyed Node}
    (h : nodeEntries .json [] (Value.fieldDocuments (entryValues overrides)) = some overrides) :
    node? .json (Node.reference prototype overrides).toValue.toDocument =
      some (.reference prototype overrides) := by
  have hprototype : field? .json ["prototype", "overrides"] (.text "prototype") =
      some (some 0) := by decide
  have hoverrides : field? .json ["prototype", "overrides"] (.text "overrides") =
      some (some 1) := by decide
  rw [Node.toValue, node?_typedValue, Value.toDocument, payload?]
  by_cases hempty : overrides = []
  · rw [hempty]
    rfl
  · have hwritten : overrides.isEmpty = false := by simpa using hempty
    simp only [hwritten, Bool.false_eq_true, if_false, Value.fieldDocuments, instanceRecord,
      hprototype, hoverrides, payload?_record h]
    rfl

/-- A node without repeated names is read as itself. -/
theorem node?_toValue {node : Node} (h : node.DistinctKeys) :
    node? .json node.toValue.toDocument = some node := by
  induction node using Node.inductionOnChildren with
  | step node ih =>
    have hentries : nodeEntries .json [] (Value.fieldDocuments (entryValues node.children)) =
        some node.children := by
      apply nodeEntries_entryValues [] (Node.Everywhere.here h)
      exact fun entry hentry => ih entry hentry (Node.Everywhere.of_mem h hentry)
    cases node with
    | scalar literal => rw [Node.toValue, node?_typedValue, payload?_literal]
    | expression text =>
      rw [Node.toValue, node?_typedValue]
      rfl
    | reference prototype overrides => exact node?_reference hentries
    | object properties =>
      rw [Node.toValue, node?_typedValue]
      exact payload?_record hentries
    | directives entries =>
      rw [Node.toValue, node?_typedValue, Value.toDocument, payload?]
      exact congrArg (Option.map Node.directives) hentries

/-- Named nodes without repeated names are read as themselves. -/
theorem nodes?_entryValues {entries : Keyed Node} (h : DistinctKeysAmong entries) :
    nodes? .json (Value.record (entryValues entries)).toDocument = some entries := by
  have hentries : nodeEntries .json [] (Value.fieldDocuments (entryValues entries)) =
      some entries := by
    apply nodeEntries_entryValues [] h.1
    exact fun entry hentry => node?_toValue (everywhereAmong_iff.mp h.2 entry hentry)
  rw [nodes?, payload?_record hentries]
  rfl

/-- A tree without repeated names is read as itself. -/
theorem tree?_toValue (tree : DistinctTree) :
    tree? .json tree.toValue.toDocument = some tree.toTree := by
  have hpaths := nodes?_entryValues tree.distinct.1
  have hprototypes := nodes?_entryValues tree.distinct.2
  have hrecord : tree.toValue.toDocument.record? .json ["paths", "prototypes"] =
      some [.present (Value.record (entryValues tree.paths)).toDocument,
        .present (Value.record (entryValues tree.prototypes)).toDocument] := rfl
  rw [tree?, hrecord]
  simp [Field.withDefault, hpaths, hprototypes]

end Document

/-- Whether a property holds of the literal of a node in case it is a double. -/
def Node.FloatHere (p : Float → Prop) : Node → Prop
  | .scalar (.float value) => p value
  | _ => True

instance {p : Float → Prop} [DecidablePred p] : DecidablePred (Node.FloatHere p)
  | .scalar (.float value) => inferInstanceAs (Decidable (p value))
  | .scalar .null | .scalar (.bool _) | .scalar (.integer _) | .scalar (.string _)
  | .expression _ | .reference _ _ | .object _ | .directives _ => inferInstanceAs (Decidable True)

/-- Whether a property holds of every double among the literals of a tree. -/
def Tree.EveryFloat (p : Float → Prop) (tree : Tree) : Prop :=
  EverywhereAmong (Node.FloatHere p) tree.paths ∧
    EverywhereAmong (Node.FloatHere p) tree.prototypes

instance {p : Float → Prop} [DecidablePred p] (tree : Tree) : Decidable (tree.EveryFloat p) :=
  inferInstanceAs (Decidable (_ ∧ _))

/-- The values of entries are readable when that of each node is. -/
theorem fieldsReadable_entryValues {entries : Keyed Node} :
    Value.FieldsReadable (entryValues entries) ↔
      ∀ entry ∈ entries, entry.2.toValue.IsReadable := by
  induction entries with
  | nil => simp [entryValues, Value.FieldsReadable]
  | cons entry rest ih => simp [entryValues, Value.FieldsReadable, ih]

/-- The value of a node is readable when what it holds is. -/
theorem isReadable_typedValue {kind : Kind} {value : Value} :
    (typedValue kind value).IsReadable ↔ value.IsReadable := by
  simp [typedValue, Value.IsReadable, Value.FieldsReadable]

/-- The numbers of a node are found again when its doubles are. -/
theorem Node.isReadable_toValue {node : Node}
    (hfinite : node.Everywhere (Node.FloatHere fun x => x.isFinite))
    (hkeeps : node.Everywhere (Node.FloatHere fun x => Json.keepsFloat x)) :
    node.toValue.IsReadable := by
  induction node using Node.inductionOnChildren with
  | step node ih =>
    have hentries : Value.FieldsReadable (entryValues node.children) := by
      apply fieldsReadable_entryValues.mpr
      intro entry hentry
      exact ih entry hentry (hfinite.of_mem hentry) (hkeeps.of_mem hentry)
    cases node with
    | scalar literal =>
      rw [toValue, isReadable_typedValue]
      cases literal with
      | null | bool _ | string _ => trivial
      | float x => exact ⟨hfinite, hkeeps⟩
      | integer value =>
        have hlow := value.le_toInt
        have hhigh := value.toInt_lt
        have hword : (2 : Int) ^ 63 ≤ 2 ^ 64 := by norm_num
        have hfits : fitsBits 64 value.toInt := by
          simp only [fitsBits, Bool.and_eq_true, decide_eq_true_eq]
          exact ⟨hlow, hhigh.trans_le hword⟩
        exact hfits
    | expression text =>
      rw [toValue, isReadable_typedValue]
      trivial
    | reference prototype overrides =>
      rw [toValue, isReadable_typedValue]
      refine ⟨trivial, ?_⟩
      split
      · trivial
      · exact ⟨hentries, trivial⟩
    | object _ | directives _ =>
      rw [toValue, isReadable_typedValue]
      exact hentries

/-- The numbers of a tree are found again when its doubles are. -/
theorem Tree.isReadable_toValue {tree : Tree} (hfinite : tree.EveryFloat fun x => x.isFinite)
    (hkeeps : tree.EveryFloat fun x => Json.keepsFloat x) : tree.toValue.IsReadable := by
  have hentries {entries : Keyed Node}
      (hfinite : EverywhereAmong (Node.FloatHere fun x => x.isFinite) entries)
      (hkeeps : EverywhereAmong (Node.FloatHere fun x => Json.keepsFloat x) entries) :
      Value.FieldsReadable (entryValues entries) := by
    apply fieldsReadable_entryValues.mpr
    intro entry hentry
    exact Node.isReadable_toValue (everywhereAmong_iff.mp hfinite entry hentry)
      (everywhereAmong_iff.mp hkeeps entry hentry)
  exact ⟨hentries hfinite.1 hkeeps.1, hentries hfinite.2 hkeeps.2, trivial⟩

end ComponentAtlas

import ComponentAtlas.Codec.Settings
import ComponentAtlas.DataFile
import ComponentAtlas.Proofs.JsonValues
import ComponentAtlas.Proofs.KeyedLists

/-!
# Data in JSON

A value carries an item when its JSON text can be read and the document in it decodes to the item.
What is known of parts carries over to lists, maps and optional parts.
-/

namespace ComponentAtlas

namespace Keyed

variable {α : Type}

/-- A name behind others without a repetition is none of them. -/
theorem Distinct.not_mem {found rest : Keyed α} {name : String} {value : α}
    (h : Distinct (found ++ (name, value) :: rest)) : name ∉ found.keys := by
  intro hmem
  rw [Distinct, keys, List.map_append, List.nodup_append] at h
  exact h.2.2 name hmem name List.mem_cons_self rfl

/-- Entries without repeated names are written one behind the other. -/
theorem ofList_eq {entries : Keyed α} (h : entries.Distinct) : ofList entries = entries := by
  have hfold (found rest : Keyed α) (h : Distinct (found ++ rest)) :
      rest.foldl (fun written entry => written.insert entry.1 entry.2) found = found ++ rest := by
    induction rest generalizing found with
    | nil => simp
    | cons entry rest ih =>
      have hmore : found ++ entry :: rest = found ++ [entry] ++ rest := by simp
      rw [List.foldl_cons, insert_of_not_mem entry.2 h.not_mem]
      rw [hmore] at h ⊢
      exact ih _ h
  exact hfold [] entries h

end Keyed

namespace Document

/-- Nothing is resolved in a JSON document. -/
@[simp] theorem seen_json (document : Document) : document.seen .json = document := rfl

/-- A text is a text in JSON. -/
@[simp] theorem text?_json (text : String) : text? .json (.text text) = some text := rfl

/-- A table is a table in JSON. -/
@[simp] theorem table?_json (entries : List (Document × Document)) :
    table? .json (.table entries) = some entries := rfl

end Document

/-- Whether the JSON text of a value can be read, if it does not stand too deep. -/
structure Value.Travels (value : Value) (levels : Nat) : Prop where
  nesting_le : value.nesting ≤ levels
  isReadable : value.IsReadable

/-- Whether the JSON text of a value can be read and decodes to an item. -/
structure Carries {α : Type} (value : Value) (levels : Nat) (decode : Document → Option α)
    (item : α) : Prop extends value.Travels levels where
  decode_eq : decode value.toDocument = some item

namespace Value

variable {levels : Nat}

/-- The null value travels. -/
theorem travels_null : Value.null.Travels levels :=
  ⟨Nat.zero_le _, trivial⟩

/-- Every text travels. -/
theorem travels_text (text : String) : (Value.text text).Travels levels :=
  ⟨Nat.zero_le _, trivial⟩

/-- What travels at a depth travels with more room. -/
theorem Travels.mono {value : Value} {more : Nat} (h : value.Travels levels) (hle : levels ≤ more) :
    value.Travels more :=
  ⟨h.nesting_le.trans hle, h.isReadable⟩

/-- A list travels one level higher than its items. -/
theorem travels_list {items : List Value} (h : ∀ item ∈ items, item.Travels levels) :
    (Value.list items).Travels (levels + 1) := by
  constructor
  · rw [nesting, Nat.add_le_add_iff_right, itemNesting_le_iff]
    exact fun item hitem => (h item hitem).nesting_le
  · exact itemsReadable_iff.mpr fun item hitem => (h item hitem).isReadable

/-- A record travels one level higher than its fields. -/
theorem travels_record {fields : List (String × Value)}
    (h : ∀ field ∈ fields, field.2.Travels levels) :
    (Value.record fields).Travels (levels + 1) := by
  constructor
  · rw [nesting, Nat.add_le_add_iff_right, fieldNesting_le_iff]
    exact fun field hfield => (h field hfield).nesting_le
  · exact fieldsReadable_iff.mpr fun field hfield => (h field hfield).isReadable

/-- An optional field travels when its value does, if it has one. -/
theorem travels_optionalField (name : String) {value : Option Value}
    (h : ∀ v ∈ value, v.Travels levels) :
    ∀ field ∈ optionalField name value, field.2.Travels levels := by
  cases value with
  | none => exact fun _ hfield => absurd hfield List.not_mem_nil
  | some v => exact List.forall_mem_singleton.mpr (h v rfl)

end Value

section Carries

variable {α : Type} {levels : Nat}

/-- Both JSON texts of a value decode to the item that it carries. -/
theorem Carries.decode?_eq {value : Value} {decode : Dialect → Document → Option α} {item : α}
    (h : Carries value levels (decode .json) item) (hlevels : levels ≤ Json.depthLimit)
    {text : String} (htext : text ∈ [Json.compact value, Json.indented 0 value]) :
    DataFormat.json.decode? decode text = some item := by
  have hnesting := h.nesting_le.trans hlevels
  have hread : Json.read? text = some value.toDocument := by
    rcases List.mem_cons.mp htext with rfl | htext
    · exact (Json.readsAs_compact h.isReadable).read?_eq hnesting
    · rw [List.mem_singleton.mp htext]
      exact (Json.readsAs_indented h.isReadable 0).read?_eq hnesting
  change (Json.read? text).bind (decode .json) = some item
  rw [hread]
  exact h.decode_eq

/-- What decodes item by item decodes to all items. -/
theorem mapM_map_eq_some {β : Type} {encode : α → β} {decode : β → Option α} {items : List α}
    (h : ∀ item ∈ items, decode (encode item) = some item) :
    (items.map encode).mapM decode = some items := by
  induction items with
  | nil => rfl
  | cons item rest ih =>
    obtain ⟨hitem, hrest⟩ := List.forall_mem_cons.mp h
    simp [hitem, ih hrest]

/-- The values of items carry them as a list. -/
theorem carries_list {toValue : α → Value} {decode : Document → Option α} {items : List α}
    (h : ∀ item ∈ items, Carries (toValue item) levels decode item) :
    Carries (.list (items.map toValue)) (levels + 1)
      (fun document => (document.list? .json).bind fun items => items.mapM decode) items := by
  refine ⟨Value.travels_list ?_, ?_⟩
  · rw [List.forall_mem_map]
    exact fun item hitem => (h item hitem).toTravels
  · rw [Value.toDocument, Value.itemDocuments_eq, List.map_map]
    exact mapM_map_eq_some fun item hitem => (h item hitem).decode_eq

/-- The values of named items carry them as a map, in order. -/
theorem carries_keyed {toValue : α → Value} {decode : Document → Option α} {entries : Keyed α}
    (hdistinct : entries.Distinct)
    (h : ∀ entry ∈ entries, Carries (toValue entry.2) levels decode entry.2) :
    Carries (entries.toValue toValue) (levels + 1) (Document.keyed? .json decode) entries := by
  refine ⟨Value.travels_record ?_, ?_⟩
  · rw [Keyed.mapValues, List.forall_mem_map]
    exact fun entry hentry => (h entry hentry).toTravels
  · have hdecoded : ((entries.mapValues toValue).map fun field =>
        (Document.text field.1, field.2.toDocument)).mapM (fun entry => do
          return (← entry.1.text? .json, ← decode entry.2)) = some entries := by
      rw [Keyed.mapValues, List.map_map]
      apply mapM_map_eq_some
      intro entry hentry
      simp [(h entry hentry).decode_eq]
    rw [Keyed.toValue, Value.toDocument, Value.fieldDocuments_eq]
    simp only [Document.keyed?, Document.table?_json, Option.bind_eq_bind, Option.bind_some]
    simp only [Option.bind_eq_bind] at hdecoded
    rw [hdecoded, Option.bind_some, Keyed.ofList_eq hdistinct]
    rfl

/-- The value of a text carries it. -/
theorem carries_text (text : String) : Carries (.text text) 0 (Document.text? .json) text :=
  ⟨Value.travels_text text, rfl⟩

/-- The value of texts carries them in their order. -/
theorem carries_texts (items : List String) :
    Carries (.texts items) 1 (Document.texts? .json) items :=
  carries_list fun item _ => carries_text item

/-- The value of a number carries it when it fits. -/
theorem carries_natural {n limit : Nat} (h : n ≤ limit) (hlimit : limit ≤ Document.word64) :
    Carries (natValue n) 0 (Document.natural? .json limit) n := by
  have hword : n ≤ twoTo 64 - 1 := h.trans hlimit
  have hpos : 0 < twoTo 64 := by decide
  have hlow : -(twoTo 63 : Int) ≤ n := by omega
  have hhigh : (n : Int) < twoTo 64 := by omega
  have hfits : fitsBits 64 n := by
    simp only [fitsBits, Bool.and_eq_true, decide_eq_true_eq]
    exact ⟨hlow, hhigh⟩
  refine ⟨⟨le_rfl, hfits⟩, ?_⟩
  simp [Document.natural?, Value.toDocument, natValue, h]

/-- A part that may be absent is carried by its value or by null. -/
theorem carries_optional {toValue : α → Value} {decode : Document → Option α} {item : Option α}
    (h : ∀ a ∈ item, toValue a ≠ .null ∧ Carries (toValue a) levels decode a) :
    Carries ((item.map toValue).getD .null) levels (Document.optional? .json decode) item := by
  cases item with
  | none => exact ⟨Value.travels_null, rfl⟩
  | some a =>
    obtain ⟨hnull, hcarries⟩ := h a rfl
    refine ⟨hcarries.toTravels, ?_⟩
    have habsent : (toValue a).toDocument.isAbsent? .json = some false := by
      cases hvalue : toValue a with
      | null => exact absurd hvalue hnull
      | _ => rfl
    simp [Document.optional?, habsent, hcarries.decode_eq]

end Carries

end ComponentAtlas

import ComponentAtlas.Proofs.JsonReading
import ComponentAtlas.Proofs.KeyedLists

/-!
# Values in JSON

Both layouts of a value are read as one document: lists stay lists, records become tables of their
fields in order, and scalars stay what they are. Integers must fit into a word, doubles must be
found again, and lists and records must not nest beyond the limit.
-/

namespace ComponentAtlas

namespace Value

/-- Induction over values: what is to be shown of a value may be assumed of its parts. -/
@[elab_as_elim, induction_eliminator]
theorem inductionOn {motive : Value → Prop} (null : motive .null)
    (bool : ∀ value, motive (.bool value)) (integer : ∀ value, motive (.integer value))
    (float : ∀ value, motive (.float value)) (text : ∀ value, motive (.text value))
    (list : ∀ items, (∀ item ∈ items, motive item) → motive (.list items))
    (record : ∀ fields, (∀ field ∈ fields, motive field.2) → motive (.record fields)) :
    ∀ value, motive value
  | .null => null
  | .bool value => bool value
  | .integer value => integer value
  | .float value => float value
  | .text value => text value
  | .list items => list items fun item _ =>
      inductionOn null bool integer float text list record item
  | .record fields => record fields fun field _ =>
      inductionOn null bool integer float text list record field.2
termination_by value => sizeOf value
decreasing_by
  · have hlt := List.sizeOf_lt_of_mem ‹_ ∈ _›
    simp only [Value.list.sizeOf_spec]
    omega
  · have hlt := sizeOf_snd_lt_of_mem ‹_ ∈ _›
    simp only [Value.record.sizeOf_spec]
    omega

mutual

/-- The document that the text of a value reads as. -/
def toDocument : Value → Document
  | .null => .null
  | .bool value => .bool value
  | .integer value => .integer value
  | .float value => .float value
  | .text value => .text value
  | .list items => .list (itemDocuments items)
  | .record fields => .table (fieldDocuments fields)

/-- The documents that the texts of items read as. -/
def itemDocuments : List Value → List Document
  | [] => []
  | item :: rest => item.toDocument :: itemDocuments rest

/-- The entries that the texts of fields read as. -/
def fieldDocuments : List (String × Value) → List (Document × Document)
  | [] => []
  | (name, value) :: rest => (.text name, value.toDocument) :: fieldDocuments rest

end

/-- The documents of items are those of each of them. -/
theorem itemDocuments_eq (items : List Value) : itemDocuments items = items.map toDocument := by
  induction items with
  | nil => rfl
  | cons item rest ih => simp [itemDocuments, ih]

/-- The entries of fields are their names with the documents of their values. -/
theorem fieldDocuments_eq (fields : List (String × Value)) :
    fieldDocuments fields = fields.map fun field => (.text field.1, field.2.toDocument) := by
  induction fields with
  | nil => rfl
  | cons field rest ih => simp [fieldDocuments, ih]

mutual

/-- How deep lists and records nest in a value. -/
def nesting : Value → Nat
  | .list items => itemNesting items + 1
  | .record fields => fieldNesting fields + 1
  | _ => 0

/-- How deep lists and records nest in items. -/
def itemNesting : List Value → Nat
  | [] => 0
  | item :: rest => max item.nesting (itemNesting rest)

/-- How deep lists and records nest in the values of fields. -/
def fieldNesting : List (String × Value) → Nat
  | [] => 0
  | (_, value) :: rest => max value.nesting (fieldNesting rest)

end

/-- Items nest no deeper than a level when none of them does. -/
theorem itemNesting_le_iff {items : List Value} {levels : Nat} :
    itemNesting items ≤ levels ↔ ∀ item ∈ items, item.nesting ≤ levels := by
  induction items with
  | nil => simp [itemNesting]
  | cons item rest ih => simp [itemNesting, ih]

/-- Fields nest no deeper than a level when none of their values does. -/
theorem fieldNesting_le_iff {fields : List (String × Value)} {levels : Nat} :
    fieldNesting fields ≤ levels ↔ ∀ field ∈ fields, field.2.nesting ≤ levels := by
  induction fields with
  | nil => simp [fieldNesting]
  | cons field rest ih => simp [fieldNesting, ih]

mutual

/-- Whether the reader finds all numbers of a value again. -/
def IsReadable : Value → Prop
  | .integer value => fitsBits 64 value
  | .float value => value.isFinite ∧ Json.keepsFloat value
  | .list items => ItemsReadable items
  | .record fields => FieldsReadable fields
  | _ => True

/-- Whether the reader finds all numbers of items again. -/
def ItemsReadable : List Value → Prop
  | [] => True
  | item :: rest => item.IsReadable ∧ ItemsReadable rest

/-- Whether the reader finds all numbers of the values of fields again. -/
def FieldsReadable : List (String × Value) → Prop
  | [] => True
  | (_, value) :: rest => value.IsReadable ∧ FieldsReadable rest

end

/-- Items are readable when each of them is. -/
theorem itemsReadable_iff {items : List Value} :
    ItemsReadable items ↔ ∀ item ∈ items, item.IsReadable := by
  induction items with
  | nil => simp [ItemsReadable]
  | cons item rest ih => simp [ItemsReadable, ih]

/-- Fields are readable when the value of each of them is. -/
theorem fieldsReadable_iff {fields : List (String × Value)} :
    FieldsReadable fields ↔ ∀ field ∈ fields, field.2.IsReadable := by
  induction fields with
  | nil => simp [FieldsReadable]
  | cons field rest ih => simp [FieldsReadable, ih]

end Value

namespace Json

/-- Whether a number may start with a character. -/
def StartsNumber (c : Char) : Prop := c.isDigit ∨ c = '-'

instance : DecidablePred StartsNumber := fun c => inferInstanceAs (Decidable (c.isDigit ∨ c = '-'))

/-- A character that may start a number differs from any that may not. -/
theorem StartsNumber.ne {c d : Char} (hc : StartsNumber c) (hd : ¬StartsNumber d) : c ≠ d := by
  rintro rfl
  exact hd hc

/-- White space starts no number. -/
theorem StartsNumber.isBlank {c : Char} (h : StartsNumber c) : isBlank c = false := by
  simp only [Json.isBlank, Bool.or_eq_false_iff, beq_eq_false_iff_ne]
  exact ⟨⟨⟨h.ne (by decide), h.ne (by decide)⟩, h.ne (by decide)⟩, h.ne (by decide)⟩

/-- What is read as a number starts as one. -/
theorem eq_cons_of_readNumber {text : List Char} {found : Document × List Char}
    (h : readNumber text = some found) : ∃ c rest, text = c :: rest ∧ StartsNumber c := by
  cases text with
  | nil => cases h
  | cons c rest =>
    refine ⟨c, rest, rfl, ?_⟩
    by_contra hnot
    have hdigit : c.isDigit = false := by simpa using fun hc => hnot (Or.inl hc)
    have hminus : (c :: rest).head? ≠ some '-' := by simpa using fun hc => hnot (Or.inr hc)
    have hspan : DecimalText.spanDigits (c :: rest) = ([], c :: rest) := by
      simp [DecimalText.spanDigits, DecimalText.digit?_eq, hdigit]
    have hnone := readNumber_signText false hminus
    rw [readMagnitude_eq, hspan] at hnone
    exact absurd (h.symm.trans hnone) (by simp)

/-- What starts as a number is read as one. -/
theorem readValue_number {c : Char} (hc : StartsNumber c) (fuel level : Nat)
    (rest : List Char) : readValue (fuel + 1) level (c :: rest) = readNumber (c :: rest) := by
  unfold readValue
  rw [skipBlanks_cons hc.isBlank]
  split <;> rename_i heq
  case h_7 => rfl
  all_goals
    obtain ⟨rfl, -⟩ := List.cons.inj heq
    exact absurd hc (by decide)

/-- What is read as a number whatever follows reads as a document. -/
theorem readsAs_number {text : List Char} {document : Document}
    (h : ∀ rest, EndsNumber rest → readNumber (text ++ rest) = some (document, rest)) :
    ReadsAs text 0 document := by
  have halone := h [] (by simp)
  rw [List.append_nil] at halone
  obtain ⟨c, more, rfl, hc⟩ := eq_cons_of_readNumber halone
  refine .of_succ ⟨c, more, rfl, hc.isBlank, hc.ne (by decide)⟩ fun fuel level rest _ _ hends => ?_
  rw [List.cons_append, readValue_number hc]
  exact h rest hends

/-- A quoted text reads as the text. -/
theorem readsAs_quote (text : String) : ReadsAs (quote text).toList 0 (.text text) := by
  rw [toList_quote]
  refine .of_succ ⟨'"', _, rfl, by decide, by decide⟩ fun fuel level rest _ _ _ => ?_
  simp [readValue, skipBlanks_cons (c := '"') (by decide), readString_quote]

/-- A word that the reader of values takes, whatever follows, reads as a document. -/
theorem readsAs_word {word : List Char} {document : Document}
    (hstarts : ∃ c rest, word = c :: rest ∧ isBlank c = false ∧ c ≠ ']')
    (h : ∀ fuel level rest, readValue (fuel + 1) level (word ++ rest) = some (document, rest)) :
    ReadsAs word 0 document :=
  .of_succ hstarts fun fuel level rest _ _ _ => h fuel level rest

/-- The text of an empty list reads as an empty list. -/
theorem readsAs_nil_list : ReadsAs "[]".toList 1 (.list []) := by
  refine .of_succ ⟨'[', _, rfl, by decide, by decide⟩ fun fuel level rest _ hlevel _ => ?_
  simp [readValue, skipBlanks, isBlank, nested, hlevel]

/-- The text of a record without fields reads as an empty table. -/
theorem readsAs_nil_table : ReadsAs "\x7b\x7d".toList 1 (.table []) := by
  refine .of_succ ⟨'\x7b', _, rfl, by decide, by decide⟩ fun fuel level rest _ hlevel _ => ?_
  simp [readValue, skipBlanks, isBlank, nested, hlevel]

section Layout

variable {opening closing : List Char} (hopening : IsBlankText opening)
  (hclosing : IsBlankText closing)
include hopening hclosing

/-- Items that read make up a list that reads. -/
theorem readsAs_value_list {items : List Value} (hne : items ≠ []) (text : Value → List Char)
    (h : ∀ item ∈ items, ReadsAs (text item) item.nesting item.toDocument) :
    ReadsAs (enclosedText opening closing '[' ']' (items.map text)) (Value.list items).nesting
      (Value.list items).toDocument := by
  rw [Value.nesting, Value.toDocument, Value.itemDocuments_eq]
  apply readsAs_list hopening hclosing hne
  intro item hitem
  exact (h item hitem).mono (Value.itemNesting_le_iff.mp le_rfl item hitem)

/-- Fields whose values read make up a record that reads. -/
theorem readsAs_value_record {fields : List (String × Value)} (hne : fields ≠ [])
    {gap : List Char} (hgap : IsBlankText gap) (text : Value → List Char)
    (h : ∀ field ∈ fields, ReadsAs (text field.2) field.2.nesting field.2.toDocument) :
    ReadsAs (enclosedText opening closing '\x7b' '\x7d'
      (fields.map fun field => fieldText gap field.1 (text field.2))) (Value.record fields).nesting
      (Value.record fields).toDocument := by
  rw [Value.nesting, Value.toDocument, Value.fieldDocuments_eq]
  apply readsAs_table hopening hclosing hne hgap
  intro field hfield
  exact (h field hfield).mono (Value.fieldNesting_le_iff.mp le_rfl field hfield)

end Layout

/-- The compact texts of items are those of each of them. -/
theorem compactItems_eq (items : List Value) : compactItems items = items.map compact := by
  induction items with
  | nil => rfl
  | cons item rest ih => simp [compactItems, ih]

/-- The compact text of a field is its quoted name, a colon and the text of its value. -/
theorem compactFields_eq (fields : List (String × Value)) :
    compactFields fields = fields.map fun field => quote field.1 ++ ":" ++ compact field.2 := by
  induction fields with
  | nil => rfl
  | cons field rest ih => simp [compactFields, ih]

/-- The indented texts of items are those of each of them. -/
theorem indentedItems_eq (level : Nat) (items : List Value) :
    indentedItems level items = items.map (indented level) := by
  induction items with
  | nil => rfl
  | cons item rest ih => simp [indentedItems, ih]

/-- The indented text of a field has a space between the colon and the text of its value. -/
theorem indentedFields_eq (level : Nat) (fields : List (String × Value)) :
    indentedFields level fields =
      fields.map fun field => quote field.1 ++ ": " ++ indented level field.2 := by
  induction fields with
  | nil => rfl
  | cons field rest ih => simp [indentedFields, ih]

/-- The empty text holds nothing but white space. -/
theorem isBlankText_nil : IsBlankText [] := by
  simp [IsBlankText]

/-- The compact text of a value reads as its document. -/
theorem readsAs_compact {value : Value} (h : value.IsReadable) :
    ReadsAs (compact value).toList value.nesting value.toDocument := by
  induction value with
  | null => exact readsAs_word ⟨'n', _, rfl, by decide, by decide⟩ fun _ _ _ => rfl
  | bool value =>
    cases value with
    | true => exact readsAs_word ⟨'t', _, rfl, by decide, by decide⟩ fun _ _ _ => rfl
    | false => exact readsAs_word ⟨'f', _, rfl, by decide, by decide⟩ fun _ _ _ => rfl
  | integer value => exact readsAs_number fun _ => readNumber_toString h
  | float value => exact readsAs_number fun _ => readNumber_text h.1 h.2
  | text value => exact readsAs_quote value
  | list items ih =>
    by_cases hne : items = []
    · rw [hne]
      exact readsAs_nil_list
    have htext : (compact (.list items)).toList =
        enclosedText [] [] '[' ']' (items.map fun item => (compact item).toList) := by
      simp [compact, compactItems_eq, enclosedText, itemsText, Function.comp_def]
    rw [htext]
    apply readsAs_value_list isBlankText_nil isBlankText_nil hne fun item => (compact item).toList
    exact fun item hitem => ih item hitem (Value.itemsReadable_iff.mp h item hitem)
  | record fields ih =>
    by_cases hne : fields = []
    · rw [hne]
      exact readsAs_nil_table
    have htext : (compact (.record fields)).toList = enclosedText [] [] '\x7b' '\x7d'
        (fields.map fun field => fieldText [] field.1 (compact field.2).toList) := by
      simp [compact, compactFields_eq, enclosedText, itemsText, fieldText, Function.comp_def]
    rw [htext]
    apply readsAs_value_record isBlankText_nil isBlankText_nil hne isBlankText_nil
      fun value => (compact value).toList
    exact fun field hfield => ih field hfield (Value.fieldsReadable_iff.mp h field hfield)

/-- A line break and its indent are white space. -/
theorem isBlankText_newline (level : Nat) : IsBlankText (newline level).toList := by
  have hspaces (count : Nat) : IsBlankText ("".pushn ' ' count).toList := by
    rw [String.pushn_eq_repeat_push]
    induction count with
    | zero => exact isBlankText_nil
    | succ count ih =>
      rw [Nat.repeat, String.toList_push]
      exact List.forall_mem_append.mpr ⟨ih, List.forall_mem_singleton.mpr rfl⟩
  rw [newline, String.toList_append]
  exact List.forall_mem_append.mpr ⟨List.forall_mem_singleton.mpr rfl, hspaces _⟩

/-- The indented text of a value reads as its document. -/
theorem readsAs_indented {value : Value} (h : value.IsReadable) (level : Nat) :
    ReadsAs (indented level value).toList value.nesting value.toDocument := by
  induction value generalizing level with
  | null | bool _ | integer _ | float _ | text _ => exact readsAs_compact h
  | list items ih =>
    by_cases hne : items = []
    · rw [hne]
      exact readsAs_nil_list
    have htext : (indented level (.list items)).toList =
        enclosedText (newline (level + 1)).toList (newline level).toList '[' ']'
          (items.map fun item => (indented (level + 1) item).toList) := by
      simp [indented, indentedItems_eq, enclose, hne, enclosedText, itemsText, Function.comp_def]
    rw [htext]
    apply readsAs_value_list (isBlankText_newline _) (isBlankText_newline _) hne
      fun item => (indented (level + 1) item).toList
    exact fun item hitem => ih item hitem (Value.itemsReadable_iff.mp h item hitem) _
  | record fields ih =>
    by_cases hne : fields = []
    · rw [hne]
      exact readsAs_nil_table
    have htext : (indented level (.record fields)).toList =
        enclosedText (newline (level + 1)).toList (newline level).toList '\x7b' '\x7d'
          (fields.map fun field =>
            fieldText [' '] field.1 (indented (level + 1) field.2).toList) := by
      simp [indented, indentedFields_eq, enclose, hne, enclosedText, itemsText, fieldText,
        Function.comp_def]
    rw [htext]
    have hgap : IsBlankText [' '] := List.forall_mem_singleton.mpr rfl
    apply readsAs_value_record (isBlankText_newline _) (isBlankText_newline _) hne hgap
      fun value => (indented (level + 1) value).toList
    exact fun field hfield => ih field hfield (Value.fieldsReadable_iff.mp h field hfield) _

/-- A text that reads as a document holds it. -/
theorem ReadsAs.read?_eq {text : String} {levels : Nat} {document : Document}
    (h : ReadsAs text.toList levels document) (hlevels : levels ≤ depthLimit) :
    read? text = some document := by
  have hread := h.reads (2 * text.toList.length + 2) 0 [] (by omega) (by omega) (by simp)
  rw [List.append_nil] at hread
  simp only [read?, hread]
  rfl

end Json

end ComponentAtlas

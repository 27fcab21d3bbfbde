import ComponentAtlas.Proofs.JsonFloats
import ComponentAtlas.Proofs.JsonStrings

/-!
# Reading lists and tables of JSON

A text reads as a document when the reader of values finds the document in it, whatever follows and
however deep it stands, up to the limit. The texts of items make up the text of a list, and the
texts of keys and values that of a table, with any blanks around them. One step of fuel for each
character is enough.
-/

namespace ComponentAtlas.Json

open SourceText (startsOutside_nil startsOutside_cons)

/-- Whether a text holds nothing but white space. -/
def IsBlankText (text : List Char) : Prop := ∀ c ∈ text, isBlank c

/-- White space in front of a text is skipped. -/
theorem skipBlanks_append {blanks : List Char} (h : IsBlankText blanks) (text : List Char) :
    skipBlanks (blanks ++ text) = skipBlanks text := by
  induction blanks with
  | nil => rfl
  | cons c blanks ih =>
    obtain ⟨hc, hblanks⟩ := List.forall_mem_cons.mp h
    rw [List.cons_append, skipBlanks, List.dropWhile_cons, if_pos hc]
    exact ih hblanks

/-- Nothing is skipped where a text does not start with white space. -/
theorem skipBlanks_cons {c : Char} (h : isBlank c = false) (rest : List Char) :
    skipBlanks (c :: rest) = c :: rest := by
  rw [skipBlanks, List.dropWhile_cons, if_neg (by simp [h])]

/-- White space and then a mark end a number. -/
theorem endsNumber_append {blanks : List Char} (h : IsBlankText blanks) {c : Char}
    (hc : continuesNumber c = false) (rest : List Char) : EndsNumber (blanks ++ c :: rest) := by
  cases blanks with
  | nil => exact startsOutside_cons.mpr hc
  | cons b blanks =>
    have hb := h b List.mem_cons_self
    apply startsOutside_cons.mpr
    simp only [isBlank, Bool.or_eq_true, beq_iff_eq] at hb
    rcases hb with ((rfl | rfl) | rfl) | rfl <;> decide

/-- White space in front of a value is skipped. -/
theorem readValue_append {blanks : List Char} (h : IsBlankText blanks) (fuel level : Nat)
    (text : List Char) : readValue fuel level (blanks ++ text) = readValue fuel level text := by
  cases fuel with
  | zero => rfl
  | succ fuel => simp only [readValue, skipBlanks_append h]

/-- Whether a text reads as a document, whatever follows, where it does not stand in too many lists
and tables for those of its own. -/
structure ReadsAs (text : List Char) (levels : Nat) (document : Document) : Prop where
  starts : ∃ c rest, text = c :: rest ∧ isBlank c = false ∧ c ≠ ']'
  reads : ∀ fuel level rest, text.length ≤ fuel → level + levels ≤ depthLimit → EndsNumber rest →
    readValue fuel level (text ++ rest) = some (document, rest)

/-- What reads with room for its own levels reads with more room. -/
theorem ReadsAs.mono {text : List Char} {levels more : Nat} {document : Document}
    (h : ReadsAs text levels document) (hle : levels ≤ more) : ReadsAs text more document where
  starts := h.starts
  reads fuel level rest hfuel hlevel hends := h.reads fuel level rest hfuel (by omega) hends

/-- A text that starts as a document does has a character, so the reader of values has a step of fuel
for it. -/
theorem ReadsAs.of_succ {text : List Char} {levels : Nat} {document : Document}
    (hstarts : ∃ c rest, text = c :: rest ∧ isBlank c = false ∧ c ≠ ']')
    (hreads : ∀ fuel level rest, text.length ≤ fuel + 1 → level + levels ≤ depthLimit →
      EndsNumber rest → readValue (fuel + 1) level (text ++ rest) = some (document, rest)) :
    ReadsAs text levels document where
  starts := hstarts
  reads fuel level rest hfuel hlevel hends := by
    obtain ⟨c, more, rfl, -⟩ := hstarts
    cases fuel with
    | zero => cases hfuel
    | succ fuel => exact hreads fuel level rest hfuel hlevel hends

/-- Texts with a comma between them, each behind the same white space. -/
def itemsText (blanks : List Char) (texts : List (List Char)) : List Char :=
  blanks ++ (',' :: blanks).intercalate texts

/-- A single item stands behind its white space. -/
theorem itemsText_singleton (blanks text : List Char) :
    itemsText blanks [text] = blanks ++ text := by
  simp [itemsText]

/-- A comma stands between the first item and the next. -/
theorem itemsText_cons_cons (blanks text next : List Char) (texts : List (List Char)) :
    itemsText blanks (text :: next :: texts) =
      blanks ++ (text ++ ',' :: itemsText blanks (next :: texts)) := by
  simp [itemsText]

/-- Behind white space, items start as their first one does. -/
theorem skipBlanks_itemsText {α : Type} {text : α → List Char} {parts : List α} {blanks : List Char}
    (hblanks : IsBlankText blanks) (hne : parts ≠ []) {p : Char → Prop}
    (hparts : ∀ part ∈ parts, ∃ c rest, text part = c :: rest ∧ isBlank c = false ∧ p c)
    (after : List Char) :
    ∃ c rest, skipBlanks (itemsText blanks (parts.map text) ++ after) = c :: rest ∧ p c := by
  obtain ⟨part, parts, rfl⟩ := List.exists_cons_of_ne_nil hne
  obtain ⟨c, rest, htext, hc, hp⟩ := hparts part List.mem_cons_self
  have hskip : ∀ more, skipBlanks (blanks ++ (text part ++ more)) = c :: (rest ++ more) := by
    intro more
    rw [skipBlanks_append hblanks, htext, List.cons_append, skipBlanks_cons hc]
  cases parts with
  | nil =>
    rw [List.map_singleton, itemsText_singleton, List.append_assoc, hskip]
    exact ⟨c, _, rfl, hp⟩
  | cons next parts =>
    rw [List.map_cons, List.map_cons, itemsText_cons_cons, List.append_assoc, List.append_assoc,
      hskip]
    exact ⟨c, _, rfl, hp⟩

/-- Whether a reader of items that end with a mark takes a text behind white space as an item. -/
structure TakesItem {α : Type} (read : Nat → List Char → Option (List α × List Char)) (mark : Char)
    (blanks text : List Char) (item : α) : Prop where
  last : ∀ fuel rest after, text.length ≤ fuel → EndsNumber rest → skipBlanks rest = mark :: after →
    read (fuel + 1) (blanks ++ (text ++ rest)) = some ([item], after)
  more : ∀ fuel rest after, text.length ≤ fuel → EndsNumber rest → skipBlanks rest = ',' :: after →
    read (fuel + 1) (blanks ++ (text ++ rest)) =
      (read fuel after).map fun (items, last) => (item :: items, last)

/-- Items are read one after the other up to their mark. -/
theorem read_itemsText {α β : Type} {read : Nat → List Char → Option (List β × List Char)}
    {mark : Char} {opening closing : List Char} {text : α → List Char} {item : α → β}
    {parts : List α} (hparts : ∀ part ∈ parts, TakesItem read mark opening (text part) (item part))
    (hne : parts ≠ []) (hclosing : IsBlankText closing) (hblank : isBlank mark = false)
    (hmark : continuesNumber mark = false) (rest : List Char) {fuel : Nat}
    (hfuel : (itemsText opening (parts.map text)).length < fuel) :
    read fuel (itemsText opening (parts.map text) ++ (closing ++ mark :: rest)) =
      some (parts.map item, rest) := by
  -- each item takes one step of fuel, and has a comma or the mark behind it to pay for the step
  induction parts generalizing fuel with
  | nil => exact absurd rfl hne
  | cons part parts ih =>
    obtain ⟨hpart, hparts⟩ := List.forall_mem_cons.mp hparts
    obtain ⟨fuel, rfl⟩ : ∃ next, fuel = next + 1 := ⟨fuel - 1, by omega⟩
    cases parts with
    | nil =>
      rw [List.map_singleton, itemsText_singleton] at hfuel ⊢
      rw [List.length_append] at hfuel
      rw [List.append_assoc]
      apply hpart.last
      · omega
      · exact endsNumber_append hclosing hmark rest
      · rw [skipBlanks_append hclosing, skipBlanks_cons hblank]
    | cons next parts =>
      have htext : itemsText opening ((part :: next :: parts).map text) =
          opening ++ (text part ++ ',' :: itemsText opening ((next :: parts).map text)) :=
        itemsText_cons_cons ..
      rw [htext] at hfuel ⊢
      rw [List.length_append, List.length_append, List.length_cons] at hfuel
      have hmore := ih hparts (List.cons_ne_nil _ _) (by omega : _ < fuel)
      rw [List.append_assoc, List.append_assoc, List.cons_append, hpart.more, hmore]
      · rfl
      · omega
      · exact startsOutside_cons.mpr (by decide)
      · exact skipBlanks_cons (by decide) _

/-- The text of a field: its name, a colon, and the text of its value. -/
def fieldText (gap : List Char) (name : String) (text : List Char) : List Char :=
  (quote name).toList ++ ':' :: (gap ++ text)

/-- Behind white space, a field starts with the quote of its name. -/
theorem skipBlanks_fieldText {blanks : List Char} (h : IsBlankText blanks) (gap : List Char)
    (name : String) (text rest : List Char) :
    skipBlanks (blanks ++ (fieldText gap name text ++ rest)) =
      '"' :: (name.toList.flatMap escapeChar ++ '"' :: ':' :: (gap ++ (text ++ rest))) := by
  rw [skipBlanks_append h, fieldText, toList_quote]
  simp [skipBlanks_cons (c := '"') (by decide)]

section Items

variable {text : List Char} {levels level : Nat} {document : Document}
  (h : ReadsAs text levels document) (hlevel : level + levels ≤ depthLimit) {blanks : List Char}
  (hblanks : IsBlankText blanks)
include h hlevel hblanks

/-- The reader of items takes a text as the document that it reads as. -/
theorem ReadsAs.takesItem :
    TakesItem (readItems · level) ']' blanks text document where
  last fuel rest after hfuel hends hclose := by
    have hread := h.reads fuel level rest hfuel hlevel hends
    simp [readItems, readValue_append hblanks, hread, hclose]
  more fuel rest after hfuel hends hcomma := by
    have hread := h.reads fuel level rest hfuel hlevel hends
    cases hmore : readItems fuel level after <;>
      simp [readItems, readValue_append hblanks, hread, hcomma, hmore]

/-- The reader of entries takes the text of a field as its name and its value. -/
theorem ReadsAs.takesField {gap : List Char} (hgap : IsBlankText gap) (name : String) :
    TakesItem (readEntries · level) '\x7d' blanks (fieldText gap name text)
      (.text name, document) := by
  have hcolon (after : List Char) : skipBlanks (':' :: after) = ':' :: after :=
    skipBlanks_cons (by decide) after
  have hread : ∀ fuel rest, (fieldText gap name text).length ≤ fuel → EndsNumber rest →
      readValue fuel level (gap ++ (text ++ rest)) = some (document, rest) := by
    intro fuel rest hfuel hends
    simp only [fieldText, List.length_append, List.length_cons] at hfuel
    rw [readValue_append hgap]
    exact h.reads fuel level rest (by omega) hlevel hends
  constructor
  · intro fuel rest after hfuel hends hclose
    simp [readEntries, skipBlanks_fieldText hblanks, readString_quote, hcolon,
      hread fuel rest hfuel hends, hclose]
  · intro fuel rest after hfuel hends hcomma
    cases hmore : readEntries fuel level after <;>
      simp [readEntries, skipBlanks_fieldText hblanks, readString_quote, hcolon,
        hread fuel rest hfuel hends, hcomma, hmore]

end Items

/-- The text of a list or table: its parts between brackets, each behind white space. -/
def enclosedText (opening closing : List Char) (first last : Char) (texts : List (List Char)) :
    List Char :=
  first :: (itemsText opening texts ++ (closing ++ [last]))

/-- The parts between brackets take up less than the brackets with them. -/
theorem length_itemsText_lt {opening closing : List Char} {first last : Char}
    {texts : List (List Char)} {fuel : Nat}
    (h : (enclosedText opening closing first last texts).length ≤ fuel + 1) :
    (itemsText opening texts).length < fuel := by
  rw [enclosedText, List.length_cons, List.length_append, List.length_append,
    List.length_singleton] at h
  omega

section Brackets

variable {fuel level : Nat} {text rest after : List Char} {c : Char}
  (hskip : skipBlanks text = c :: rest) (hlevel : level + 1 ≤ depthLimit)
include hskip hlevel

/-- What stands behind an opening bracket and is no closing one is items. -/
theorem readValue_bracket (hc : c ≠ ']') {items : List Document}
    (hitems : readItems fuel (level + 1) text = some (items, after)) :
    readValue (fuel + 1) level ('[' :: text) = some (.list items, after) := by
  simp [readValue, skipBlanks_cons (c := '[') (by decide), hskip, hc, hitems, nested, hlevel]

/-- What stands behind an opening brace and is no closing one is entries. -/
theorem readValue_brace (hc : c ≠ '\x7d') {entries : List (Document × Document)}
    (hentries : readEntries fuel (level + 1) text = some (entries, after)) :
    readValue (fuel + 1) level ('\x7b' :: text) = some (.table entries, after) := by
  simp [readValue, skipBlanks_cons (c := '\x7b') (by decide), hskip, hc, hentries, nested, hlevel]

end Brackets

section Enclosed

variable {α : Type} {parts : List α} {levels : Nat} {opening closing : List Char}
  (hopening : IsBlankText opening) (hclosing : IsBlankText closing) (hne : parts ≠ [])
include hopening hclosing hne

/-- A list whose items read reads as the list of what they read as. -/
theorem readsAs_list {text : α → List Char} {document : α → Document}
    (hparts : ∀ part ∈ parts, ReadsAs (text part) levels (document part)) :
    ReadsAs (enclosedText opening closing '[' ']' (parts.map text)) (levels + 1)
      (.list (parts.map document)) := by
  refine .of_succ ⟨'[', _, rfl, by decide, by decide⟩ fun fuel level rest hfuel hlevel _ => ?_
  have hwithin : level + 1 + levels ≤ depthLimit := by omega
  have hitems := read_itemsText (fun part hpart => (hparts part hpart).takesItem hwithin hopening)
    hne hclosing (by decide) (by decide) rest (length_itemsText_lt hfuel)
  obtain ⟨c, after, hskip, hc⟩ := skipBlanks_itemsText hopening hne
    (fun part hpart => (hparts part hpart).starts) (closing ++ ']' :: rest)
  rw [enclosedText, List.cons_append, List.append_assoc, List.append_assoc, List.singleton_append]
  exact readValue_bracket hskip (by omega) hc hitems

/-- A table whose values read reads as the table of its names and of what the values read as. -/
theorem readsAs_table {gap : List Char} (hgap : IsBlankText gap) {name : α → String}
    {text : α → List Char} {document : α → Document}
    (hparts : ∀ part ∈ parts, ReadsAs (text part) levels (document part)) :
    ReadsAs (enclosedText opening closing '\x7b' '\x7d'
        (parts.map fun part => fieldText gap (name part) (text part))) (levels + 1)
      (.table (parts.map fun part => (.text (name part), document part))) := by
  refine .of_succ ⟨'\x7b', _, rfl, by decide, by decide⟩ fun fuel level rest hfuel hlevel _ => ?_
  have hwithin : level + 1 + levels ≤ depthLimit := by omega
  have hentries := read_itemsText
    (fun part hpart => (hparts part hpart).takesField hwithin hopening hgap (name part))
    hne hclosing (by decide) (by decide) rest (length_itemsText_lt hfuel)
  have hquote : ∀ part ∈ parts, ∃ c rest, fieldText gap (name part) (text part) = c :: rest ∧
      isBlank c = false ∧ c ≠ '\x7d' := by
    intro part _
    rw [fieldText, toList_quote]
    exact ⟨'"', _, rfl, by decide, by decide⟩
  obtain ⟨c, after, hskip, hc⟩ :=
    skipBlanks_itemsText hopening hne hquote (closing ++ '\x7d' :: rest)
  rw [enclosedText, List.cons_append, List.append_assoc, List.append_assoc, List.singleton_append]
  exact readValue_brace hskip (by omega) hc hentries

end Enclosed

end ComponentAtlas.Json

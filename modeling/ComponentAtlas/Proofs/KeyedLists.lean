import ComponentAtlas.Keyed

/-!
# Names and values of keyed lists

A keyed list in which no name occurs twice is determined by the order of its names and by the value
found under each of them. Writing a value keeps such a list free of repetitions, and names collected
from several lists keep the order in which they first occur.
-/

namespace ComponentAtlas

/-- What stands under a name is smaller than the entries. -/
theorem sizeOf_snd_lt_of_mem {α β : Type} [SizeOf α] [SizeOf β] {entry : α × β}
    {entries : List (α × β)} (h : entry ∈ entries) : sizeOf entry.2 < sizeOf entries := by
  have hlt := List.sizeOf_lt_of_mem h
  obtain ⟨key, value⟩ := entry
  simp only [Prod.mk.sizeOf_spec] at hlt ⊢
  omega

namespace Keyed

variable {α : Type}

/-- Where there is no entry, there is no name. -/
@[simp] theorem keys_nil : keys ([] : Keyed α) = [] := rfl

/-- The names are those of the entries, in their order. -/
@[simp] theorem keys_cons (key : String) (value : α) (rest : Keyed α) :
    keys ((key, value) :: rest) = key :: keys rest := rfl

/-- No name repeats where there is no entry. -/
@[simp] theorem distinct_nil : Distinct ([] : Keyed α) := List.nodup_nil

/-- No name repeats when the first does not occur again and none repeats among the rest. -/
theorem distinct_cons {key : String} {value : α} {rest : Keyed α} :
    Distinct ((key, value) :: rest) ↔ key ∉ keys rest ∧ Distinct rest := by
  simp only [Distinct, keys_cons, List.nodup_cons]

/-- A name is looked up in vain exactly when it is not among the names. -/
theorem find?_eq_none {entries : Keyed α} {name : String} :
    entries.find? name = none ↔ name ∉ entries.keys := by
  induction entries with
  | nil => simp
  | cons entry rest ih =>
    obtain ⟨key, value⟩ := entry
    by_cases h : key = name
    · simp [h]
    · simp [h, ih, Ne.symm h]

/-- Something is found under a name exactly when the name is among the names. -/
theorem find?_isSome {entries : Keyed α} {name : String} :
    (entries.find? name).isSome ↔ name ∈ entries.keys := by
  rw [Option.isSome_iff_ne_none, ne_eq, find?_eq_none, Classical.not_not]

/-- A name under which something is found is among the names. -/
theorem mem_keys_of_find? {entries : Keyed α} {name : String} {value : α}
    (h : entries.find? name = some value) : name ∈ entries.keys :=
  find?_isSome.mp (by rw [h]; rfl)

/-- What is found under a name is an entry of that name. -/
theorem mem_of_find? {entries : Keyed α} {name : String} {value : α}
    (h : entries.find? name = some value) : (name, value) ∈ entries := by
  induction entries with
  | nil => simp at h
  | cons entry rest ih =>
    obtain ⟨key, old⟩ := entry
    by_cases hkey : key = name
    · simp only [find?_cons, if_pos hkey, Option.some.injEq] at h
      simp [hkey, h]
    · simp only [find?_cons, if_neg hkey] at h
      exact List.mem_cons_of_mem _ (ih h)

/-- Where no name repeats, every entry is found under its name. -/
theorem find?_of_mem {entries : Keyed α} (hdistinct : entries.Distinct) {name : String} {value : α}
    (h : (name, value) ∈ entries) : entries.find? name = some value := by
  induction entries with
  | nil => cases h
  | cons entry rest ih =>
    obtain ⟨key, old⟩ := entry
    obtain ⟨hnew, hrest⟩ := distinct_cons.mp hdistinct
    rcases List.mem_cons.mp h with heq | hmem
    · obtain ⟨rfl, rfl⟩ := Prod.mk.inj heq
      simp
    · have hne : key ≠ name := fun heq =>
        hnew (heq ▸ List.mem_map.mpr ⟨(name, value), hmem, rfl⟩)
      simp [hne, ih hrest hmem]

/-- A written name that is new comes last; one that is present keeps its place. -/
theorem keys_insert (entries : Keyed α) (name : String) (value : α) :
    (entries.insert name value).keys =
      if name ∈ entries.keys then entries.keys else entries.keys ++ [name] := by
  induction entries with
  | nil => simp [insert]
  | cons entry rest ih =>
    obtain ⟨key, old⟩ := entry
    by_cases h : key = name
    · simp [insert, h]
    · have hne : name ≠ key := Ne.symm h
      simp only [insert, if_neg h, keys_cons, ih, List.mem_cons, hne, false_or]
      split <;> rfl

/-- No name repeats after an insertion, which replaces the entry of a name that is there. -/
theorem Distinct.insert {entries : Keyed α} (h : entries.Distinct) (name : String) (value : α) :
    (entries.insert name value).Distinct := by
  unfold Distinct at *
  rw [keys_insert]
  split <;> rename_i hmem
  · exact h
  · rw [List.nodup_append]
    refine ⟨h, List.nodup_cons.mpr ⟨List.not_mem_nil, List.nodup_nil⟩, ?_⟩
    intro a ha b hb heq
    rw [List.mem_singleton] at hb
    exact hmem (hb ▸ heq ▸ ha)

/-- A written name that is new comes last. -/
theorem insert_of_not_mem {entries : Keyed α} {name : String} (value : α)
    (h : name ∉ entries.keys) : entries.insert name value = entries ++ [(name, value)] := by
  induction entries with
  | nil => rfl
  | cons entry rest ih =>
    obtain ⟨key, old⟩ := entry
    rw [keys_cons, List.mem_cons, not_or] at h
    have hne : key ≠ name := Ne.symm h.1
    rw [insert, if_neg hne, ih h.2]
    rfl

/-- Writing what a name already holds changes nothing. -/
theorem insert_of_find? {entries : Keyed α} {name : String} {value : α}
    (h : entries.find? name = some value) : entries.insert name value = entries := by
  induction entries with
  | nil => cases h
  | cons entry rest ih =>
    obtain ⟨key, old⟩ := entry
    rw [find?_cons] at h
    by_cases hkey : key = name
    · rw [if_pos hkey] at h
      rw [insert, if_pos hkey, hkey, Option.some.inj h]
    · rw [if_neg hkey] at h
      rw [insert, if_neg hkey, ih h]

/-- What holds of all entries and of a written one holds of all entries after the write. -/
theorem forall_mem_insert {q : String × α → Prop} {entries : Keyed α} {name : String} {value : α}
    (h : ∀ entry ∈ entries, q entry) (hvalue : q (name, value)) :
    ∀ entry ∈ entries.insert name value, q entry := by
  induction entries with
  | nil => exact List.forall_mem_singleton.mpr hvalue
  | cons entry rest ih =>
    obtain ⟨key, old⟩ := entry
    obtain ⟨hentry, hrest⟩ := List.forall_mem_cons.mp h
    by_cases heq : key = name
    · rw [Keyed.insert, if_pos heq]
      exact List.forall_mem_cons.mpr ⟨hvalue, hrest⟩
    · rw [Keyed.insert, if_neg heq]
      exact List.forall_mem_cons.mpr ⟨hentry, ih hrest⟩

/-- The names stay when the values are mapped. -/
theorem keys_mapValues {β : Type} (f : α → β) (entries : Keyed α) :
    (entries.mapValues f).keys = entries.keys := by
  rw [keys, mapValues, List.map_map]
  rfl

/-- To look a name up in mapped values is to map what is found under it. -/
theorem find?_mapValues {β : Type} (f : α → β) (entries : Keyed α) (name : String) :
    (entries.mapValues f).find? name = (entries.find? name).map f := by
  induction entries with
  | nil => rfl
  | cons entry rest ih =>
    obtain ⟨key, value⟩ := entry
    rw [mapValues, List.map_cons, find?_cons, find?_cons, ← mapValues, ih]
    split <;> rfl

/-- What a function makes of the entries, each under its name, without those of which it makes
nothing. -/
def selected {β : Type} (f : String → α → Option β) (entries : Keyed α) : Keyed β :=
  entries.filterMap fun entry => (f entry.1 entry.2).map (entry.1, ·)

section Selected

variable {β : Type} (f : String → α → Option β)

/-- The first entry is left out, or what is made of it stands before what is made of the rest. -/
theorem selected_cons (key : String) (value : α) (rest : Keyed α) :
    selected f ((key, value) :: rest) =
      match f key value with
      | some chosen => (key, chosen) :: selected f rest
      | none => selected f rest := by
  rw [selected, List.filterMap_cons]
  cases f key value <;> rfl

/-- The names of a selection are names of the list, in order. -/
theorem keys_selected_sublist (entries : Keyed α) : (selected f entries).keys.Sublist entries.keys := by
  induction entries with
  | nil => exact List.Sublist.refl _
  | cons entry rest ih =>
    obtain ⟨key, value⟩ := entry
    rw [selected_cons]
    cases f key value with
    | none => exact ih.cons key
    | some chosen => exact ih.cons_cons key

/-- What a selection holds under a name is made of the value under the name. -/
theorem find?_selected {entries : Keyed α} (hdistinct : entries.Distinct) (name : String) :
    (selected f entries).find? name = (entries.find? name).bind (f name) := by
  induction entries with
  | nil => rfl
  | cons entry rest ih =>
    obtain ⟨key, value⟩ := entry
    obtain ⟨hnew, hrest⟩ := distinct_cons.mp hdistinct
    rw [find?_cons, selected_cons]
    by_cases hkey : key = name
    · subst hkey
      rw [if_pos rfl, Option.bind_some]
      cases f key value with
      | none => exact find?_eq_none.mpr fun hmem => hnew ((keys_selected_sublist f rest).subset hmem)
      | some chosen => exact if_pos rfl
    · rw [if_neg hkey, ← ih hrest]
      cases f key value with
      | none => rfl
      | some chosen => exact if_neg hkey

end Selected

/-- Names in order and values by name determine a keyed list without repetitions. -/
theorem ext_of_distinct {left right : Keyed α} (hdistinct : left.Distinct)
    (hkeys : left.keys = right.keys) (hfind : ∀ name, left.find? name = right.find? name) :
    left = right := by
  induction left generalizing right with
  | nil =>
    cases right with
    | nil => rfl
    | cons entry rest => simp [keys] at hkeys
  | cons entry rest ih =>
    obtain ⟨key, value⟩ := entry
    cases right with
    | nil => simp [keys] at hkeys
    | cons other others =>
      obtain ⟨key', value'⟩ := other
      simp only [keys_cons, List.cons.injEq] at hkeys
      obtain ⟨rfl, hrest⟩ := hkeys
      have hvalue : value = value' := by simpa using hfind key
      have hnew := (distinct_cons.mp hdistinct).1
      have hothers : rest = others := by
        refine ih (distinct_cons.mp hdistinct).2 hrest fun name => ?_
        by_cases h : key = name
        · subst h
          rw [find?_eq_none.mpr hnew, find?_eq_none.mpr (hrest ▸ hnew)]
        · simpa [h] using hfind name
      rw [hvalue, hothers]

end Keyed

/-- Repetitions may be dropped before or after a filter. -/
theorem distinct_filter {α : Type} [DecidableEq α] (p : α → Bool) (items : List α) :
    distinct (items.filter p) = (distinct items).filter p := by
  induction items with
  | nil => rfl
  | cons a rest ih =>
    have hswap : ((distinct rest).filter p).filter (· ≠ a) =
        ((distinct rest).filter (· ≠ a)).filter p := by
      rw [List.filter_filter, List.filter_filter]
      simp only [Bool.and_comm]
    by_cases hp : p a
    · rw [List.filter_cons_of_pos hp, distinct, distinct, List.filter_cons_of_pos hp, ih, hswap]
    · have hkept : ∀ b ∈ (distinct rest).filter p, decide (b ≠ a) := by
        intro b hb
        have hpb := (List.mem_filter.mp hb).2
        exact decide_eq_true fun heq => hp (heq ▸ hpb)
      rw [List.filter_cons_of_neg hp, distinct, List.filter_cons_of_neg hp, ih, ← hswap,
        List.filter_eq_self.mpr hkept]

/-- Dropping repetitions keeps the first occurrence of each element and no other. -/
theorem distinct_eq_eraseDups {α : Type} [DecidableEq α] (items : List α) :
    distinct items = items.eraseDups := by
  induction hlength : items.length using Nat.strongRecOn generalizing items with
  | ind length ih =>
    cases items with
    | nil => rfl
    | cons a rest =>
      have hshorter : (rest.filter (· ≠ a)).length < length := by
        have hle := List.length_filter_le (· ≠ a) rest
        rw [List.length_cons] at hlength
        omega
      have hrest := ih _ hshorter (rest.filter (· ≠ a)) rfl
      have hsame : (fun b => decide (b ≠ a)) = fun b => !b == a := by
        funext b
        by_cases h : b = a <;> simp [h]
      rw [List.eraseDups_cons, distinct, ← distinct_filter, hrest, hsame]

/-- The first occurrences are the same elements as all occurrences. -/
theorem mem_distinct {α : Type} [DecidableEq α] {a : α} {items : List α} :
    a ∈ distinct items ↔ a ∈ items := by
  rw [distinct_eq_eraseDups, List.mem_eraseDups]

/-- A list without repetitions is that of its first occurrences. -/
theorem distinct_of_nodup {α : Type} [DecidableEq α] {items : List α} (h : items.Nodup) :
    distinct items = items := by
  induction items with
  | nil => rfl
  | cons a rest ih =>
    obtain ⟨hnew, hrest⟩ := List.nodup_cons.mp h
    have hkept : ∀ b ∈ rest, decide (b ≠ a) := fun b hb =>
      decide_eq_true fun heq => hnew (heq ▸ hb)
    rw [distinct, ih hrest, List.filter_eq_self.mpr hkept]

/-- What follows a list adds those of its elements that are new, each once. -/
theorem distinct_append {α : Type} [DecidableEq α] (first second : List α) :
    distinct (first ++ second) = distinct first ++ (distinct second).filter (· ∉ first) := by
  have hnew : second.removeAll first = second.filter (· ∉ first) := by
    simp [List.removeAll]
  rw [distinct_eq_eraseDups, List.eraseDups_append, ← distinct_eq_eraseDups,
    ← distinct_eq_eraseDups, hnew, distinct_filter]

end ComponentAtlas

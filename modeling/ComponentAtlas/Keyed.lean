/-!
# Keyed lists

A keyed list is a list of named values in a fixed order: the properties of a node, the prototypes
of a tree, the fields of a record. Writing a name that is already present replaces its value in
place, so the order is always that of first appearance.
-/

namespace ComponentAtlas

/-- Named values in order of first appearance. -/
abbrev Keyed (α : Type) := List (String × α)

namespace Keyed

variable {α β : Type}

/-- The names, in order. -/
def keys (entries : Keyed α) : List String :=
  entries.map Prod.fst

/-- The value stored under a name. -/
def find? : Keyed α → String → Option α
  | [], _ => none
  | (key, value) :: rest, name => if key = name then some value else find? rest name

/-- Whether a name is present. -/
def has (entries : Keyed α) (name : String) : Bool :=
  (entries.find? name).isSome

/-- Writes a value under a name: in place when the name is present, at the end otherwise. -/
def insert : Keyed α → String → α → Keyed α
  | [], name, value => [(name, value)]
  | (key, old) :: rest, name, value =>
    if key = name then (name, value) :: rest else (key, old) :: insert rest name value

/-- Writes a list of entries one after the other, so that the last value of a name wins. -/
def ofList (entries : List (String × α)) : Keyed α :=
  entries.foldl (fun written entry => insert written entry.1 entry.2) []

/-- Applies a function to each value. -/
def mapValues (f : α → β) (entries : Keyed α) : Keyed β :=
  entries.map fun entry => (entry.1, f entry.2)

/-- No name occurs twice. -/
def Distinct (entries : Keyed α) : Prop :=
  entries.keys.Nodup

/-- The entries in ascending order of their names, compared by code points. -/
def sorted (entries : Keyed α) : Keyed α :=
  entries.mergeSort fun left right => decide (left.1 ≤ right.1)

/-- Nothing is found where there is no entry. -/
@[simp] theorem find?_nil (name : String) : find? ([] : Keyed α) name = none := rfl

/-- A name is found in the first entry if it is the entry's, and among the rest otherwise. -/
@[simp] theorem find?_cons (key : String) (value : α) (rest : Keyed α) (name : String) :
    find? ((key, value) :: rest) name = if key = name then some value else find? rest name := rfl

/-- After a write the written name holds the written value and every other name what it held. -/
theorem find?_insert (entries : Keyed α) (name : String) (value : α) (query : String) :
    (entries.insert name value).find? query =
      if name = query then some value else entries.find? query := by
  induction entries with
  | nil => simp [insert]
  | cons entry rest ih =>
    obtain ⟨key, old⟩ := entry
    by_cases h : key = name
    · subst h
      simp only [insert, if_pos, find?_cons]
      split <;> rfl
    · simp only [insert, if_neg h, find?_cons, ih]
      by_cases hk : key = query
      · subst hk
        simp [Ne.symm h]
      · simp [hk]

end Keyed

/-- The list without repetitions: each element stays where it first occurs. -/
def distinct {α : Type} [DecidableEq α] : List α → List α
  | [] => []
  | a :: rest => a :: (distinct rest).filter (· ≠ a)

end ComponentAtlas

import ComponentAtlas.Proofs.CompositionMarking

/-!
# Positions of a composition

The list of positions keeps the shape of the composition. The parts of a listed position are listed
one level deeper, every position but the first is a part of one listed before it, and the number of
positions is one more than the number of all parts.
-/

namespace ComponentAtlas.Composition

/-- Induction over a composition: what is to be shown of a position may be assumed of its parts. -/
@[elab_as_elim, induction_eliminator]
theorem inductionOnParts {motive : Composition → Prop}
    (step : ∀ here, (∀ part ∈ here.parts, motive part) → motive here) : ∀ here, motive here
  | .position _ _ _ _ parts => step _ fun part (_ : part ∈ parts) => inductionOnParts step part
termination_by here => sizeOf here
decreasing_by
  have hlt := List.sizeOf_lt_of_mem ‹part ∈ parts›
  simp only [position.sizeOf_spec]
  omega

/-- The positions of a composition are its first one and those of its parts, one level below. -/
theorem positions_eq (depth : Nat) (here : Composition) :
    here.positions depth = (depth, here) :: positionsAmong (depth + 1) here.parts := by
  cases here
  rfl

/-- The first position of a composition is listed with the depth at which the list starts. -/
theorem mem_positions_self (depth : Nat) (here : Composition) :
    (depth, here) ∈ here.positions depth := by
  rw [positions_eq]
  exact List.mem_cons_self

/-- The positions of several compositions are those of each of them. -/
theorem mem_positionsAmong {depth : Nat} {parts : List Composition} {place : Nat × Composition} :
    place ∈ positionsAmong depth parts ↔ ∃ part ∈ parts, place ∈ part.positions depth := by
  induction parts with
  | nil => simp [positionsAmong]
  | cons part rest ih => simp [positionsAmong, ih]

/-- The parts of a listed position are listed one level below it. -/
theorem mem_positions_part {top here part : Composition} {start depth : Nat}
    (hhere : (depth, here) ∈ top.positions start) (hpart : part ∈ here.parts) :
    (depth + 1, part) ∈ top.positions start := by
  induction top generalizing start with
  | step top ih =>
    rw [positions_eq, List.mem_cons] at hhere ⊢
    right
    rcases hhere with heq | hbelow
    · obtain ⟨rfl, rfl⟩ := Prod.mk.inj heq
      exact mem_positionsAmong.mpr ⟨part, hpart, mem_positions_self _ _⟩
    · obtain ⟨branch, hbranch, hmem⟩ := mem_positionsAmong.mp hbelow
      exact mem_positionsAmong.mpr ⟨branch, hbranch, ih branch hbranch hmem⟩

/-- Whether a position at a given depth is a part of one of the listed positions, one level above. -/
def EnclosedIn (places : List (Nat × Composition)) (depth : Nat) (here : Composition) : Prop :=
  ∃ level above, (level, above) ∈ places ∧ depth = level + 1 ∧ here ∈ above.parts

/-- What encloses a position still does when more positions are listed. -/
theorem EnclosedIn.mono {first second : List (Nat × Composition)} {depth : Nat}
    {here : Composition} (h : EnclosedIn first depth here) (hsubset : first ⊆ second) :
    EnclosedIn second depth here := by
  obtain ⟨level, above, habove, hlevel⟩ := h
  exact ⟨level, above, hsubset habove, hlevel⟩

/-- A position among those of several compositions is one of these or a part of a position listed
before it, when this is so in each of them. -/
theorem enclosed_among {parts : List Composition} {start depth : Nat} {here : Composition}
    {before after : List (Nat × Composition)}
    (hparts : ∀ part ∈ parts, ∀ before after,
      part.positions start = before ++ (depth, here) :: after →
      (depth = start ∧ here = part) ∨ EnclosedIn before depth here)
    (h : positionsAmong start parts = before ++ (depth, here) :: after) :
    (depth = start ∧ here ∈ parts) ∨ EnclosedIn before depth here := by
  induction parts generalizing before after with
  | nil => simp [positionsAmong] at h
  | cons part rest ih =>
    obtain ⟨hpart, hrest⟩ := List.forall_mem_cons.mp hparts
    -- The position lies either behind the positions of the first part or among them.
    rcases List.append_eq_append_iff.mp h with ⟨others, rfl, hothers⟩ | ⟨others, hfirst, hothers⟩
    · rcases ih hrest hothers with ⟨hdepth, hmem⟩ | hinside
      · exact Or.inl ⟨hdepth, List.mem_cons_of_mem _ hmem⟩
      · exact Or.inr (hinside.mono (List.subset_append_right _ _))
    · cases others with
      | nil =>
        have hbelow : positionsAmong start rest = [] ++ (depth, here) :: after := hothers.symm
        rcases ih hrest hbelow with ⟨hdepth, hmem⟩ | ⟨_, _, hnone, _⟩
        · exact Or.inl ⟨hdepth, List.mem_cons_of_mem _ hmem⟩
        · exact absurd hnone List.not_mem_nil
      | cons place others =>
        obtain ⟨rfl, _⟩ := List.cons.inj hothers
        rcases hpart before others hfirst with ⟨hdepth, rfl⟩ | hinside
        · exact Or.inl ⟨hdepth, List.mem_cons_self⟩
        · exact Or.inr hinside

/-- Every position is the first or a part of a position that is listed before it, one level above. -/
theorem enclosed {top : Composition} {start depth : Nat} {here : Composition}
    {before after : List (Nat × Composition)}
    (h : top.positions start = before ++ (depth, here) :: after) :
    (depth = start ∧ here = top) ∨ EnclosedIn before depth here := by
  induction top generalizing start before after with
  | step top ih =>
    rw [positions_eq] at h
    cases before with
    | nil =>
      obtain ⟨heq, _⟩ := List.cons.inj h
      obtain ⟨rfl, rfl⟩ := Prod.mk.inj heq
      exact Or.inl ⟨rfl, rfl⟩
    | cons first before =>
      obtain ⟨rfl, hbelow⟩ := List.cons.inj h
      right
      rcases enclosed_among (fun part hpart _ _ => ih part hpart) hbelow with
        ⟨hdepth, hmem⟩ | hinside
      · exact ⟨start, top, List.mem_cons_self, hdepth, hmem⟩
      · exact hinside.mono (List.subset_cons_self _ _)

/-- The number of parts at all listed positions. -/
def partTotal : List (Nat × Composition) → Nat
  | [] => 0
  | place :: rest => place.2.parts.length + partTotal rest

/-- The parts at the positions of two lists are counted together. -/
theorem partTotal_append (first second : List (Nat × Composition)) :
    partTotal (first ++ second) = partTotal first + partTotal second := by
  induction first with
  | nil => simp [partTotal]
  | cons place rest ih =>
    rw [List.cons_append, partTotal, partTotal, ih]
    omega

/-- The size of parts is their number and that of all parts below them. -/
theorem sizes_eq {depth : Nat} {parts : List Composition}
    (hparts : ∀ part ∈ parts, part.size = 1 + partTotal (part.positions depth)) :
    sizes parts = parts.length + partTotal (positionsAmong depth parts) := by
  induction parts with
  | nil => rfl
  | cons part rest ih =>
    obtain ⟨hpart, hrest⟩ := List.forall_mem_cons.mp hparts
    rw [sizes, hpart, ih hrest, positionsAmong, partTotal_append, List.length_cons]
    omega

/-- There is one position more than there are parts. -/
theorem size_eq (here : Composition) (depth : Nat) :
    here.size = 1 + partTotal (here.positions depth) := by
  induction here generalizing depth with
  | step here ih =>
    have hsize : here.size = 1 + sizes here.parts := by
      cases here
      rfl
    have hparts := sizes_eq fun part hpart => ih part hpart (depth + 1)
    rw [hsize, hparts, positions_eq, partTotal]

end ComponentAtlas.Composition

import Mathlib.Data.List.Forall2

/-!
# Computations one after the other

A computation of several steps has a result exactly when each of its steps has one, and its fault is
that of the first step without a result. The steps may be written out, or they may be the same
computation for each item of a list.
-/

namespace ComponentAtlas

variable {α β ε : Type}

/-- A computation followed by another succeeds exactly when both do. -/
theorem bind_eq_ok {first : Except ε α} {next : α → Except ε β} {result : β} :
    first >>= next = .ok result ↔ ∃ value, first = .ok value ∧ next value = .ok result := by
  cases first <;> simp [bind, Except.bind]

/-- A computation followed by another fails with the fault of the first of them that does. -/
theorem bind_eq_error {first : Except ε α} {next : α → Except ε β} {fault : ε} :
    first >>= next = .error fault ↔
      first = .error fault ∨ ∃ value, first = .ok value ∧ next value = .error fault := by
  cases first <;> simp [bind, Except.bind]

/-- What is made of a result fails exactly when the first step does. -/
theorem map_eq_error {f : α → β} {first : Except ε α} {fault : ε} :
    f <$> first = .error fault ↔ first = .error fault := by
  cases first <;> simp [Functor.map, Except.map]

/-- Whether a fault is that of the first item of a list for which a computation has no result. -/
def FailsFirst (f : α → Except ε β) (items : List α) (fault : ε) : Prop :=
  ∃ before item after, items = before ++ item :: after ∧
    (∀ earlier ∈ before, ∃ result, f earlier = .ok result) ∧ f item = .error fault

section Items

variable {f : α → Except ε β} {item : α} {items : List α} {results : List β} {fault : ε}

/-- The first item comes before the others, and its result before theirs. -/
theorem mapM_cons_eq : (item :: items).mapM f =
    f item >>= fun result => items.mapM f >>= fun results => .ok (result :: results) :=
  List.mapM_cons

/-- All items have results exactly when each of them has one. -/
theorem mapM_eq_ok :
    items.mapM f = .ok results ↔
      List.Forall₂ (fun item result => f item = .ok result) items results := by
  induction items generalizing results with
  | nil =>
    rw [List.forall₂_nil_left_iff]
    exact ⟨fun h => (Except.ok.inj h).symm, fun h => h ▸ rfl⟩
  | cons item rest ih =>
    rw [mapM_cons_eq, bind_eq_ok, List.forall₂_cons_left_iff]
    simp only [bind_eq_ok, ih, Except.ok.injEq]
    constructor
    · rintro ⟨result, hitem, others, hothers, rfl⟩
      exact ⟨result, others, hitem, hothers, rfl⟩
    · rintro ⟨result, others, hitem, hothers, rfl⟩
      exact ⟨result, hitem, others, hothers, rfl⟩

/-- Where all items have results, each has. -/
theorem exists_of_mapM_eq_ok (h : items.mapM f = .ok results) (hitem : item ∈ items) :
    ∃ result, f item = .ok result := by
  induction items generalizing results with
  | nil => cases hitem
  | cons first rest ih =>
    obtain ⟨result, hfirst, hrest⟩ := bind_eq_ok.mp (mapM_cons_eq ▸ h)
    obtain ⟨others, hothers, -⟩ := bind_eq_ok.mp hrest
    rcases List.mem_cons.mp hitem with rfl | hmem
    · exact ⟨result, hfirst⟩
    · exact ih hothers hmem

/-- Nothing fails where there is no item. -/
theorem failsFirst_nil : ¬FailsFirst f [] fault := by
  rintro ⟨before, item, after, heq, -⟩
  exact List.append_ne_nil_of_right_ne_nil before (List.cons_ne_nil item after) heq.symm

/-- The first fault is that of the first item or, if that succeeds, the first of the others. -/
theorem failsFirst_cons : FailsFirst f (item :: items) fault ↔
    f item = .error fault ∨ (∃ result, f item = .ok result) ∧ FailsFirst f items fault := by
  constructor
  · rintro ⟨before, failing, after, heq, hbefore, hfailing⟩
    cases before with
    | nil =>
      cases heq
      exact .inl hfailing
    | cons first others =>
      cases heq
      obtain ⟨hfirst, hothers⟩ := List.forall_mem_cons.mp hbefore
      exact .inr ⟨hfirst, others, failing, after, rfl, hothers, hfailing⟩
  · rintro (hitem | ⟨hitem, before, failing, after, rfl, hbefore, hfailing⟩)
    · exact ⟨[], item, items, rfl, fun _ h => absurd h List.not_mem_nil, hitem⟩
    · exact ⟨item :: before, failing, after, rfl, List.forall_mem_cons.mpr ⟨hitem, hbefore⟩,
        hfailing⟩

/-- The fault of a list is that of its first item without a result. -/
theorem mapM_eq_error : items.mapM f = .error fault ↔ FailsFirst f items fault := by
  induction items with
  | nil => exact iff_of_false (fun h => nomatch h) failsFirst_nil
  | cons item rest ih =>
    rw [mapM_cons_eq, bind_eq_error, failsFirst_cons, ← ih]
    refine or_congr_right ⟨?_, ?_⟩
    · rintro ⟨result, hitem, hrest⟩
      rcases bind_eq_error.mp hrest with hfault | ⟨others, _, hnone⟩
      · exact ⟨⟨result, hitem⟩, hfault⟩
      · cases hnone
    · rintro ⟨⟨result, hitem⟩, hrest⟩
      exact ⟨result, hitem, bind_eq_error.mpr (.inl hrest)⟩

/-- Every fault of a list is that of one of its items. -/
theorem FailsFirst.exists_mem (h : FailsFirst f items fault) :
    ∃ item ∈ items, f item = .error fault := by
  obtain ⟨before, item, after, rfl, -, hitem⟩ := h
  exact ⟨item, by simp, hitem⟩

end Items

/-- What two lists have in common item by item, one has where the other has it. -/
theorem exists_mem_iff_of_forall₂ {r : α → β → Prop} {p : α → Prop} {q : β → Prop}
    (hiff : ∀ a b, r a b → (p a ↔ q b)) {left : List α} {right : List β}
    (h : List.Forall₂ r left right) : (∃ a ∈ left, p a) ↔ ∃ b ∈ right, q b := by
  induction h with
  | nil => simp
  | cons hhead _ ih => simp only [List.exists_mem_cons_iff, hiff _ _ hhead, ih]

/-- What comes of a list comes of one of its items. -/
theorem exists_mem_of_mapM_eq_ok {f : α → Except ε β} {items : List α} {results : List β}
    (h : items.mapM f = .ok results) {result : β} (hresult : result ∈ results) :
    ∃ item ∈ items, f item = .ok result := by
  refine (exists_mem_iff_of_forall₂ (fun item value hvalue => ?_) (mapM_eq_ok.mp h)).mpr
    ⟨result, hresult, rfl⟩
  rw [hvalue, Except.ok.injEq, eq_comm]

/-- Two relations that agree on the items of a list relate it to the same lists. -/
theorem forall₂_congr_of_mem {r s : α → β → Prop} {left : List α} {right : List β}
    (h : ∀ a ∈ left, ∀ b, r a b ↔ s a b) : List.Forall₂ r left right ↔ List.Forall₂ s left right := by
  induction left generalizing right with
  | nil => rw [List.forall₂_nil_left_iff, List.forall₂_nil_left_iff]
  | cons a rest ih =>
    obtain ⟨hhead, hrest⟩ := List.forall_mem_cons.mp h
    cases right with
    | nil => exact iff_of_false (fun h => nomatch h) fun h => nomatch h
    | cons b others => rw [List.forall₂_cons, List.forall₂_cons, hhead, ih hrest]

end ComponentAtlas

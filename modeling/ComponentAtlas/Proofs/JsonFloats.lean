import ComponentAtlas.Proofs.FloatText
import ComponentAtlas.Proofs.JsonNumbers

/-!
# Doubles in JSON

The text of a finite double shows a point or an exponent, so it is never read as an integer. Which
double it is read as is another matter: the reader keeps the leading digits, rounds them, and rounds
again when it scales them, so it does not find every double again.
-/

namespace ComponentAtlas

open SourceText (startsOutside_nil)

namespace Json

/-- Whether a text is a number without a sign that shows a point or an exponent. -/
def IsFractional (text : List Char) : Prop :=
  ∃ number : NumberText, number.text = text ∧ number.isFractional

/-- A single digit is the part of a number before its point. -/
theorem isWhole_singleton {c : Char} (h : c.isDigit) : IsWhole [c] where
  ne_nil := List.cons_ne_nil _ _
  isDigit := List.forall_mem_singleton.mpr h
  noZero _ := rfl

namespace IsWhole

variable {word : List Char} (h : IsWhole word) (hzero : word.head? ≠ some '0')
include h hzero

/-- Digits after a first one that is no zero leave it without a needless zero. -/
theorem append {more : List Char} (hmore : ∀ c ∈ more, c.isDigit) : IsWhole (word ++ more) where
  ne_nil := List.append_ne_nil_of_left_ne_nil h.ne_nil _
  isDigit := List.forall_mem_append.mpr ⟨h.isDigit, hmore⟩
  noZero hhead := by
    rw [List.head?_append, Option.or_of_isSome (List.isSome_head?.mpr h.ne_nil)] at hhead
    exact absurd hhead hzero

/-- The first digits of a number that does not start with a zero are such a number. -/
theorem take {count : Nat} (hcount : count ≠ 0) : IsWhole (word.take count) where
  ne_nil := by simp [h.ne_nil, hcount]
  isDigit c hc := h.isDigit c (List.mem_of_mem_take hc)
  noZero hhead := by
    rw [List.head?_take, if_neg hcount] at hhead
    exact absurd hhead hzero

end IsWhole

/-- A whole number followed by a point and digits shows a point. -/
theorem isFractional_point {whole word : List Char} (hwhole : IsWhole whole) (hne : word ≠ [])
    (hword : ∀ c ∈ word, c.isDigit) : IsFractional (whole ++ '.' :: word) := by
  let number : NumberText :=
    { whole, fraction := '.' :: word, isWhole := hwhole
      isFraction := Or.inr ⟨word, rfl, hne, hword⟩ }
  have htext : number.text = whole ++ '.' :: word := by
    rw [NumberText.text, List.append_nil]
  exact ⟨number, htext, rfl⟩

/-- A power of ten is written with its sign. -/
theorem isExponent_text (exponent : Int) :
    IsExponent ('e' :: ((if exponent < 0 then "" else "+") ++ toString exponent).toList) := by
  have hdigits := isWhole_toDigits exponent.natAbs
  right
  by_cases hneg : exponent < 0
  · refine ⟨'-', Nat.toDigits 10 exponent.natAbs, ?_, Or.inr rfl, hdigits.ne_nil, hdigits.isDigit⟩
    rw [String.toList_append, toList_toString_int]
    simp [signText, hneg]
  · refine ⟨'+', Nat.toDigits 10 exponent.natAbs, ?_, Or.inl rfl, hdigits.ne_nil, hdigits.isDigit⟩
    rw [String.toList_append, toList_toString_int]
    simp [signText, hneg]

section Digits

variable {digits : List Char} (hwhole : IsWhole digits)
include hwhole

/-- Digits with a point after a number of them show the point. -/
theorem isFractional_withPoint (hzero : digits.head? ≠ some '0') (point : Int) :
    IsFractional (NumberLayout.json.withPoint digits point).toList := by
  have hzeros (count : Nat) : ∀ c ∈ List.replicate count '0', c.isDigit := by
    intro c hc
    rw [List.eq_of_mem_replicate hc]
    rfl
  unfold NumberLayout.withPoint
  by_cases hnone : point ≤ 0
  · -- the point comes before all digits
    have hword := List.forall_mem_append.mpr ⟨hzeros (-point).toNat, hwhole.isDigit⟩
    have hshows := isFractional_point (isWhole_singleton (c := '0') rfl)
      (List.append_ne_nil_of_right_ne_nil _ hwhole.ne_nil) hword
    simpa [hnone, NumberLayout.toList_zeros] using hshows
  by_cases hall : point.toNat < digits.length
  · -- the point comes between digits
    have hcount : point.toNat ≠ 0 := by omega
    have hdrop : digits.drop point.toNat ≠ [] := by simp; omega
    have hshows := isFractional_point (hwhole.take hzero hcount) hdrop fun c hc =>
      hwhole.isDigit c (List.mem_of_mem_drop hc)
    simpa [hnone, hall] using hshows
  · -- all digits come before the point
    have hpadded := hwhole.append hzero (hzeros (point.toNat - digits.length))
    have hshows := isFractional_point hpadded (List.cons_ne_nil '0' [])
      (List.forall_mem_singleton.mpr rfl)
    simpa [hnone, hall, NumberLayout.toList_zeros, NumberLayout.json] using hshows

/-- Digits with one of them before the point and a power of ten show the power. -/
theorem isFractional_withExponent (point : Int) :
    IsFractional (NumberLayout.json.withExponent digits point).toList := by
  obtain ⟨c, word, rfl⟩ := List.exists_cons_of_ne_nil hwhole.ne_nil
  obtain ⟨hc, hword⟩ := List.forall_mem_cons.mp hwhole.isDigit
  have hfraction : IsFraction (if word.isEmpty then [] else '.' :: word) := by
    cases word with
    | nil => exact Or.inl rfl
    | cons d word => exact Or.inr ⟨d :: word, rfl, List.cons_ne_nil _ _, hword⟩
  refine ⟨⟨[c], _, _, isWhole_singleton hc, hfraction, isExponent_text (point - 1)⟩, ?_, ?_⟩
  · cases word <;> simp [NumberText.text, NumberLayout.withExponent, NumberLayout.json]
  · simp [NumberText.isFractional]

end Digits

/-- The text of a decimal other than zero shows a point or an exponent. -/
theorem isFractional_decimalText {decimal : Decimal} (h : decimal.digits ≠ 0) :
    IsFractional (NumberLayout.json.decimalText decimal).toList := by
  have hwhole := isWhole_toDigits decimal.digits
  have hzero : (Nat.toDigits 10 decimal.digits).head? ≠ some '0' := by
    intro hhead
    exact h (eq_zero_of_head?_toDigits hhead)
  change IsFractional (if _ then _ else _ : String).toList
  split
  · exact isFractional_withPoint hwhole hzero _
  · exact isFractional_withExponent hwhole _

/-- The shortest decimal of a double other than zero is not zero. -/
theorem digits_shortest_ne_zero {b : Binary64} (tie : Tie) (h : b.significand ≠ 0) :
    (b.shortest tie).digits ≠ 0 := by
  intro hzero
  have hpos := (Binary64.rounds_shortest tie h).pos h
  rw [Decimal.value, hzero] at hpos
  simp at hpos

/-- The text of a finite double shows a point or an exponent behind its sign. -/
theorem text_eq_of_isFinite {x : Float} (h : x.isFinite) : ∃ magnitude,
    (NumberLayout.json.text x).toList = signText (Binary64.ofFloat x).negative ++ magnitude ∧
      IsFractional magnitude := by
  have hfinite := (Binary64.isFinite_ofFloat h).biased_lt.ne
  rw [NumberLayout.text, Binary64.isNaN, Binary64.isInfinite]
  simp only [hfinite, decide_false, Bool.false_and, Bool.false_eq_true, if_false]
  let magnitude := if (Binary64.ofFloat x).significand = 0 then "0.0"
    else NumberLayout.json.decimalText ((Binary64.ofFloat x).shortest .even)
  refine ⟨magnitude.toList, ?_, ?_⟩
  · cases (Binary64.ofFloat x).negative
    · rfl
    · exact String.toList_append
  · dsimp only [magnitude]
    split
    · exact isFractional_point (isWhole_singleton rfl) (List.cons_ne_nil '0' [])
        (List.forall_mem_singleton.mpr rfl)
    · rename_i hne
      exact isFractional_decimalText (digits_shortest_ne_zero .even hne)

/-- The text of a finite double is read as a double, never as an integer, whatever follows. -/
theorem readNumber_text_eq {x : Float} (h : x.isFinite) : ∃ decimal : DecimalText,
    ∀ rest, EndsNumber rest → readNumber ((NumberLayout.json.text x).toList ++ rest) =
      some ((decimal.scaled?.map Document.float).getD .malformed, rest) := by
  obtain ⟨_, htext, number, rfl, hfractional⟩ := text_eq_of_isFinite h
  obtain ⟨decimal, -, -, hread⟩ := readNumber_append (Binary64.ofFloat x).negative number
  refine ⟨decimal, fun rest hrest => ?_⟩
  rw [htext, List.append_assoc, hread rest hrest, hfractional]
  cases hscaled : decimal.scaled? <;> simp [numberDocument, hscaled]

/-- Whether the reader finds a double again in its text. -/
def keepsFloat (x : Float) : Bool :=
  match readNumber (NumberLayout.json.text x).toList with
  | some (.float y, _) => y = x
  | _ => false

/-- A finite double that the reader finds again comes back as itself, whatever follows. -/
theorem readNumber_text {x : Float} (h : x.isFinite) (hkeeps : keepsFloat x) {rest : List Char}
    (hrest : EndsNumber rest) :
    readNumber ((NumberLayout.json.text x).toList ++ rest) = some (.float x, rest) := by
  obtain ⟨decimal, hread⟩ := readNumber_text_eq h
  have halone := hread [] startsOutside_nil
  rw [List.append_nil] at halone
  rw [keepsFloat, halone] at hkeeps
  rw [hread rest hrest]
  cases hscaled : decimal.scaled? with
  | none => simp [hscaled] at hkeeps
  | some y =>
    rw [hscaled] at hkeeps
    have hsame : y = x := of_decide_eq_true hkeeps
    rw [hsame]
    rfl

example : keepsFloat 0.1 ∧ ¬keepsFloat 0.09090909090909091 := by decide +kernel

end Json

end ComponentAtlas

import ComponentAtlas.Decimal.Shortest
import Mathlib.Algebra.Order.Field.Power
import Mathlib.Data.Rat.Cast.Order
import Mathlib.Tactic.Linarith
import Mathlib.Tactic.LinearCombination
import Mathlib.Tactic.NormNum
import Mathlib.Tactic.Positivity
import Mathlib.Tactic.Ring

/-!
# Rounding intervals

The decimals that round to a finite double form an interval around it, and the intervals of
different doubles do not meet. Every decimal that `Binary64.shortest` returns lies in the interval
of its double, so it tells the double apart from all others.
-/

namespace ComponentAtlas

/-- These are the powers of two. -/
theorem twoTo_eq (n : Nat) : twoTo n = 2 ^ n := rfl

/-- The number that a decimal stands for. -/
def Decimal.value (decimal : Decimal) : ℚ :=
  decimal.digits * 10 ^ decimal.exponent

namespace Binary64

/-- The unit in which the ends of rounding intervals are counted: a quarter of the significand's. -/
def quarter (b : Binary64) : ℚ := 2 ^ (b.power - 2)

/-- The lower end of the rounding interval, in quarters. -/
def low (b : Binary64) : Nat := 4 * b.significand - if b.nearBelow then 1 else 2

/-- The upper end of the rounding interval, in quarters. -/
def high (b : Binary64) : Nat := 4 * b.significand + 2

/-- Whether a number rounds to the double. The ends of the interval do so exactly when the
significand is even. -/
def Rounds (b : Binary64) (q : ℚ) : Prop :=
  if b.significand % 2 = 0 then b.low * b.quarter ≤ q ∧ q ≤ b.high * b.quarter
  else b.low * b.quarter < q ∧ q < b.high * b.quarter

/-- A quarter of a unit is positive. -/
theorem quarter_pos (b : Binary64) : 0 < b.quarter := by
  unfold quarter
  positivity

/-- A power is made a natural one by a factor that depends on its exponent alone. -/
private theorem zpow_mul_pow_toNat {base : ℚ} (hbase : base ≠ 0) (n : Int) :
    base ^ n * base ^ (-n).toNat = base ^ n.toNat := by
  rw [← zpow_natCast, ← zpow_natCast, ← zpow_add₀ hbase]
  congr 1
  omega

/-- Both scales are the powers they stand for, enlarged by one common factor. -/
theorem exists_scale (power exponent : Int) : ∃ factor : ℚ, 0 < factor ∧
    ((scales power exponent).1 : ℚ) = 2 ^ power * factor ∧
    ((scales power exponent).2 : ℚ) = 10 ^ exponent * factor := by
  refine ⟨2 ^ (-power).toNat * 10 ^ (-exponent).toNat, by positivity, ?_, ?_⟩
  · rw [← mul_assoc, zpow_mul_pow_toNat two_ne_zero]
    simp [scales, twoTo, tenTo]
  · rw [mul_left_comm, zpow_mul_pow_toNat (by norm_num)]
    simp [scales, twoTo, tenTo]

/-- Counts of quarters and points of a decimal grid become naturals by one common factor. -/
theorem exists_common_scale (b : Binary64) (exponent : Int) : ∃ factor : ℚ, 0 < factor ∧
    (∀ count : Nat, ((count * (scales (b.power - 2) exponent).1 : Nat) : ℚ) =
      count * b.quarter * factor) ∧
    ∀ point : Nat, ((point * (scales (b.power - 2) exponent).2 : Nat) : ℚ) =
      (Decimal.mk point exponent).value * factor := by
  obtain ⟨factor, hpos, hleft, hright⟩ := exists_scale (b.power - 2) exponent
  refine ⟨factor, hpos, fun count => ?_, fun point => ?_⟩
  · rw [Nat.cast_mul, hleft, quarter, mul_assoc]
  · rw [Nat.cast_mul, hright, Decimal.value, mul_assoc]

/-- Comparing a scaled count of quarters to a scaled grid point compares the numbers. -/
theorem quarters_le {b : Binary64} {exponent : Int} {count point : Nat} :
    count * (scales (b.power - 2) exponent).1 ≤ point * (scales (b.power - 2) exponent).2 ↔
      count * b.quarter ≤ (Decimal.mk point exponent).value := by
  obtain ⟨factor, hpos, hcount, hpoint⟩ := b.exists_common_scale exponent
  rw [← Nat.cast_le (α := ℚ), hcount, hpoint, mul_le_mul_iff_left₀ hpos]

/-- Comparing a scaled grid point to a scaled count of quarters compares the numbers. -/
theorem le_quarters {b : Binary64} {exponent : Int} {count point : Nat} :
    point * (scales (b.power - 2) exponent).2 ≤ count * (scales (b.power - 2) exponent).1 ↔
      (Decimal.mk point exponent).value ≤ count * b.quarter := by
  obtain ⟨factor, hpos, hcount, hpoint⟩ := b.exists_common_scale exponent
  rw [← Nat.cast_le (α := ℚ), hcount, hpoint, mul_le_mul_iff_left₀ hpos]

/-- A grid point that is returned rounds to the double. -/
theorem rounds_of_gridPoint? {b : Binary64} {tie : Tie} {exponent : Int} {decimal : Decimal}
    (h : b.gridPoint? tie exponent = some decimal) : b.Rounds decimal.value := by
  obtain ⟨point, rfl, hinside⟩ : ∃ point, decimal = ⟨point, exponent⟩ ∧
      (if b.significand % 2 = 0 then
        decide (b.low * (scales (b.power - 2) exponent).1 ≤
            point * (scales (b.power - 2) exponent).2) &&
          decide (point * (scales (b.power - 2) exponent).2 ≤
            b.high * (scales (b.power - 2) exponent).1)
      else
        decide (b.low * (scales (b.power - 2) exponent).1 <
            point * (scales (b.power - 2) exponent).2) &&
          decide (point * (scales (b.power - 2) exponent).2 <
            b.high * (scales (b.power - 2) exponent).1)) = true := by
    unfold gridPoint? at h
    simp only [Option.ite_none_right_eq_some, Option.some.injEq] at h
    exact ⟨_, h.2.symm, h.1⟩
  unfold Rounds
  split at hinside
  · rw [if_pos ‹_›]
    simpa [quarters_le, le_quarters] using hinside
  · rw [if_neg ‹_›]
    simpa [← not_le, quarters_le, le_quarters] using hinside

/-- The exact decimal is the double, four quarters for each unit of the significand. -/
theorem value_exactDecimal (b : Binary64) :
    b.exactDecimal.value = (4 * b.significand : Nat) * b.quarter := by
  have htwo : (2 : ℚ) ^ (min b.power 0) * (2 : ℚ) ^ b.power.toNat = 2 ^ b.power := by
    rw [← zpow_natCast, ← zpow_add₀ two_ne_zero]
    congr 1
    omega
  have hfive : (5 : ℚ) ^ (min b.power 0) * (5 : ℚ) ^ (-b.power).toNat = 1 := by
    rw [← zpow_natCast, ← zpow_add₀ (by norm_num), ← zpow_zero (5 : ℚ)]
    congr 1
    omega
  have hquarter : (2 : ℚ) ^ b.power = 4 * b.quarter := by
    rw [quarter, zpow_sub₀ two_ne_zero]
    norm_num
    ring
  have hten : (10 : ℚ) ^ (min b.power 0) = 2 ^ (min b.power 0) * 5 ^ (min b.power 0) := by
    rw [← mul_zpow]
    norm_num
  simp only [Decimal.value, exactDecimal, twoTo, Nat.pow_eq, Nat.cast_mul, Nat.cast_pow, hten]
  push_cast
  linear_combination (b.significand * 2 ^ b.power) * hfive +
    b.significand * (5 : ℚ) ^ (min b.power 0) * (5 : ℚ) ^ (-b.power).toNat * htwo +
    b.significand * hquarter

/-- The exact value rounds to the double. -/
theorem rounds_exactDecimal {b : Binary64} (h : b.significand ≠ 0) :
    b.Rounds b.exactDecimal.value := by
  have hlow : b.low < 4 * b.significand := by
    unfold low
    split <;> omega
  have hhigh : 4 * b.significand < b.high := by
    unfold high
    omega
  have hlow' : (b.low : ℚ) * b.quarter < (4 * b.significand : Nat) * b.quarter :=
    mul_lt_mul_of_pos_right (Nat.cast_lt.mpr hlow) b.quarter_pos
  have hhigh' : ((4 * b.significand : Nat) : ℚ) * b.quarter < b.high * b.quarter :=
    mul_lt_mul_of_pos_right (Nat.cast_lt.mpr hhigh) b.quarter_pos
  rw [Rounds, value_exactDecimal]
  split
  · exact ⟨hlow'.le, hhigh'.le⟩
  · exact ⟨hlow', hhigh'⟩

/-- The shortest decimal of a double other than zero rounds to it. -/
theorem rounds_shortest {b : Binary64} (tie : Tie) (h : b.significand ≠ 0) :
    b.Rounds (b.shortest tie).value := by
  unfold shortest
  cases hfind : ((List.range 20).map fun (step : Nat) => b.gridBound - (step : Int)).findSome?
      (b.gridPoint? tie) with
  | none => simpa [hfind] using rounds_exactDecimal h
  | some decimal =>
    obtain ⟨exponent, -, hpoint⟩ := List.exists_of_findSome?_eq_some hfind
    simpa [hfind] using rounds_of_gridPoint? hpoint

/-- Two doubles to which one number rounds: the lower end of one interval, in units of the other,
does not exceed the upper end of the other, and reaches it only when both intervals are closed. -/
theorem Rounds.mul_low_le {b c : Binary64} {q : ℚ} (hb : b.Rounds q) (hc : c.Rounds q) {k : Nat}
    (hk : k * b.quarter ≤ c.quarter) :
    k * c.low < b.high ∨
      k * c.low = b.high ∧ b.significand % 2 = 0 ∧ c.significand % 2 = 0 := by
  have hunit : (k * c.low : Nat) * b.quarter ≤ c.low * c.quarter := by
    have := mul_le_mul_of_nonneg_left hk (Nat.cast_nonneg (α := ℚ) c.low)
    push_cast
    linarith
  have hcancel : ∀ {x y : Nat}, (x : ℚ) * b.quarter ≤ y * b.quarter → x ≤ y := fun h =>
    Nat.cast_le.mp (le_of_mul_le_mul_right h b.quarter_pos)
  have hcancel' : ∀ {x y : Nat}, (x : ℚ) * b.quarter < y * b.quarter → x < y := fun h =>
    Nat.cast_lt.mp (lt_of_mul_lt_mul_right h b.quarter_pos.le)
  unfold Rounds at hb hc
  split at hb <;> split at hc
  · have hle := hcancel (hunit.trans (hc.1.trans hb.2))
    omega
  · exact Or.inl (hcancel' (hunit.trans_lt (hc.1.trans_le hb.2)))
  · exact Or.inl (hcancel' (hunit.trans_lt (hc.1.trans_lt hb.2)))
  · exact Or.inl (hcancel' (hunit.trans_lt (hc.1.trans hb.2)))

/-- Whether the fields are those of a number: the biased exponent below that of NaN and the
infinities, the fraction within its bits. -/
structure IsFinite (b : Binary64) : Prop where
  biased_lt : b.biased < 2047
  fraction_lt : b.fraction < 2 ^ 52

/-- The significand of a finite double takes up fifty-three bits at most. -/
theorem IsFinite.significand_lt {b : Binary64} (h : b.IsFinite) : b.significand < 2 ^ 53 := by
  have hfraction := h.fraction_lt
  have htwo := twoTo_eq 52
  unfold significand
  split <;> omega

/-- Above the least power the significand has its leading bit. -/
theorem le_significand {b : Binary64} (h : -1074 < b.power) : 2 ^ 52 ≤ b.significand := by
  have hbiased : b.biased ≠ 0 := by
    unfold power at h
    omega
  rw [significand, if_neg hbiased]
  exact Nat.le_add_right _ _

/-- Above the least power the neighbour below is near unless it has the same power. -/
theorem nearBelow_or_lt_significand {b : Binary64} (h : -1074 < b.power) :
    b.nearBelow ∨ 2 ^ 52 < b.significand := by
  have hbiased : 1 < b.biased := by
    unfold power at h
    omega
  have htwo := twoTo_eq 52
  rw [significand, if_neg (by omega), nearBelow, htwo]
  by_cases hfraction : b.fraction = 0
  · simp [hfraction, hbiased]
  · right
    omega

/-- The power and the significand of a number determine its fields. -/
theorem IsFinite.fields_eq {b c : Binary64} (hb : b.IsFinite) (hc : c.IsFinite)
    (hpower : b.power = c.power) (hsignificand : b.significand = c.significand) :
    b.biased = c.biased ∧ b.fraction = c.fraction := by
  have hfractions := And.intro hb.fraction_lt hc.fraction_lt
  have htwo := twoTo_eq 52
  unfold power at hpower
  unfold significand at hsignificand
  split at hsignificand <;> split at hsignificand <;> omega

/-- Zero has one magnitude. -/
theorem fields_of_significand_eq_zero {b c : Binary64} (hb : b.significand = 0)
    (hc : c.significand = 0) : b.biased = c.biased ∧ b.fraction = c.fraction := by
  have htwo := twoTo_eq 52
  unfold significand at hb hc
  split at hb <;> split at hc <;> omega

/-- Rounding intervals of different powers do not meet. -/
theorem Rounds.power_le {b c : Binary64} {q : ℚ} (hb : b.Rounds q) (hc : c.Rounds q)
    (hfinite : b.IsFinite) : c.power ≤ b.power := by
  by_contra! hlt
  have hleast : -1074 < c.power := by
    have : -1074 ≤ b.power := by
      unfold power
      omega
    omega
  have hunit : (2 : Nat) * b.quarter ≤ c.quarter := by
    rw [quarter, quarter, Nat.cast_ofNat, ← zpow_one_add₀ two_ne_zero]
    exact zpow_le_zpow_right₀ one_le_two (by omega)
  have hends := hb.mul_low_le hc hunit
  have hhigh := hfinite.significand_lt
  have hsignificand := le_significand hleast
  rw [low, high] at hends
  rcases nearBelow_or_lt_significand hleast with hnear | hlt
  · rw [if_pos hnear] at hends
    omega
  · split at hends <;> omega

/-- Rounding intervals of different significands of one power do not meet. -/
theorem Rounds.significand_le {b c : Binary64} {q : ℚ} (hb : b.Rounds q) (hc : c.Rounds q)
    (hpower : b.power = c.power) : c.significand ≤ b.significand := by
  have hunit : (1 : Nat) * b.quarter ≤ c.quarter := by
    rw [quarter, quarter, hpower, Nat.cast_one, one_mul]
  have hends := hb.mul_low_le hc hunit
  rw [low, high] at hends
  split at hends <;> omega

/-- A decimal that rounds to two doubles of one sign tells that they are the same. -/
theorem Rounds.fields_eq {b c : Binary64} {q : ℚ} (hb : b.Rounds q) (hc : c.Rounds q)
    (hbfinite : b.IsFinite) (hcfinite : c.IsFinite) :
    b.biased = c.biased ∧ b.fraction = c.fraction := by
  have hpower : b.power = c.power :=
    le_antisymm (hc.power_le hb hcfinite) (hb.power_le hc hbfinite)
  have hsignificand : b.significand = c.significand :=
    le_antisymm (hc.significand_le hb hpower.symm) (hb.significand_le hc hpower)
  exact hbfinite.fields_eq hcfinite hpower hsignificand

/-- No interval reaches down to zero, except that of zero itself. -/
theorem Rounds.pos {b : Binary64} {q : ℚ} (h : b.Rounds q) (hb : b.significand ≠ 0) : 0 < q := by
  have hlow : 0 < b.low := by
    unfold low
    split <;> omega
  have hpos : 0 < b.low * b.quarter := mul_pos (Nat.cast_pos.mpr hlow) b.quarter_pos
  unfold Rounds at h
  split at h
  · exact hpos.trans_le h.1
  · exact hpos.trans h.1

end Binary64

end ComponentAtlas

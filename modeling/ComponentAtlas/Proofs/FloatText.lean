import ComponentAtlas.Proofs.Lexemes
import ComponentAtlas.Proofs.RoundingIntervals

/-!
# Text of floating-point numbers

A finite double is written as digits around a point, behind a minus sign when it is negative. The
digits stand for a decimal that rounds to the double, so the text tells it apart from all other
finite doubles.
-/

namespace ComponentAtlas

namespace Binary64

/-- The fields of a double determine it. -/
theorem ofFloat_injective {x y : Float} (h : ofFloat x = ofFloat y) : x = y := by
  have hx := x.toBits.toNat_lt
  have hy := y.toBits.toNat_lt
  simp only [ofFloat, twoTo_eq, mk.injEq] at h
  obtain ⟨hsign, hbiased, hfraction⟩ := h
  have hbits : x.toBits = y.toBits := by
    have hsign' := decide_eq_decide.mp hsign
    exact UInt64.toNat_inj.mp (by omega)
  obtain ⟨⟨_, _⟩⟩ := x
  obtain ⟨⟨_, _⟩⟩ := y
  cases hbits
  rfl

open Float.Model in
/-- The fields of a finite double are those of a number. -/
theorem isFinite_ofFloat {x : Float} (h : x.isFinite) : (ofFloat x).IsFinite := by
  have hx := x.toBits.toNat_lt
  refine ⟨?_, ?_⟩
  · by_contra hnot
    simp only [ofFloat, twoTo_eq] at hnot
    have hexponent : @UnpackedFloat.unpackExponent Format.binary64
        x.toModel.toBits.toBitVec = -1#_ := by
      apply BitVec.eq_of_toNat_eq
      have hones : x.toModel.toBits.toNat >>> 52 % 2048 = 2047 := by
        rw [Nat.shiftRight_eq_div_pow]
        change x.toBits.toNat / 2 ^ 52 % 2048 = 2047
        omega
      simpa [UnpackedFloat.unpackExponent] using hones
    have hunpack : x.toModel.unpack.isFinite = false := by
      delta unpack UnpackedFloat.unpack
      dsimp only
      rw [if_pos hexponent]
      by_cases hmantissa : @UnpackedFloat.unpackMantissa Format.binary64
          x.toModel.toBits.toBitVec = 0#_
      · rw [if_pos hmantissa]
        rfl
      · rw [if_neg hmantissa]
        rfl
    exact absurd h (by simp [Float.isFinite, Float.Model.isFinite, hunpack])
  · simp only [ofFloat, twoTo_eq]
    omega

end Binary64

namespace NumberLayout

/-- A number of zeros is written as so many times the same digit. -/
theorem toList_zeros (count : Nat) : (zeros count).toList = List.replicate count '0' := by
  unfold zeros
  rw [String.pushn_eq_repeat_push]
  induction count with
  | zero => rfl
  | succ count ih => rw [Nat.repeat, String.toList_push, ih, ← List.replicate_succ']

end NumberLayout

namespace SourceText

/-- Whether a text consists of digits around a point that stand for a number. -/
def Shows (text : List Char) (q : ℚ) : Prop :=
  ∃ whole fraction : List Char, text = whole ++ '.' :: fraction ∧
    (∀ c ∈ whole, c.isDigit) ∧ (∀ c ∈ fraction, c.isDigit) ∧
    q * 10 ^ fraction.length = Nat.ofDigitChars 10 (whole ++ fraction) 0

/-- Digits around a point stand for one number. -/
theorem Shows.unique {text : List Char} {p q : ℚ} (hp : Shows text p) (hq : Shows text q) :
    p = q := by
  obtain ⟨whole, fraction, rfl, hwhole, -, hp⟩ := hp
  obtain ⟨whole', fraction', htext, hwhole', -, hq⟩ := hq
  have hpoint : ∀ {rest}, StartsOutside Char.isDigit ('.' :: rest) := by
    simp
  obtain ⟨rfl, hrest⟩ := word_append_inj hwhole hwhole' hpoint hpoint htext
  obtain ⟨-, rfl⟩ := List.cons.inj hrest
  exact mul_right_cancel₀ (by positivity) (hp.trans hq.symm)

/-- A text that stands for a number has a point, and digits around it. -/
theorem Shows.chars {text : List Char} {q : ℚ} (h : Shows text q) :
    '.' ∈ text ∧ ∀ c ∈ text, c.isDigit ∨ c = '.' := by
  obtain ⟨whole, fraction, rfl, hwhole, hfraction, -⟩ := h
  refine ⟨by simp, fun c hc => ?_⟩
  rcases List.mem_append.mp hc with hc | hc
  · exact Or.inl (hwhole c hc)
  · rcases List.mem_cons.mp hc with rfl | hc
    · exact Or.inr rfl
    · exact Or.inl (hfraction c hc)

/-- The text with a point at its end unless it shows one. -/
def pointed (text : String) : String :=
  if text.toList.contains '.' then text else text ++ ".0"

/-- A text that shows a point is left as it is. -/
theorem pointed_of_mem {text : String} (h : '.' ∈ text.toList) : pointed text = text := by
  simp [pointed, h]

/-- A text without a point gets one and a zero after it. -/
theorem pointed_of_not_mem {text : String} (h : '.' ∉ text.toList) :
    pointed text = text ++ ".0" := by
  simp [pointed, h]

/-- There is no point among digits. -/
private theorem point_not_mem {digits : List Char} (h : ∀ c ∈ digits, c.isDigit) : '.' ∉ digits :=
  fun hmem => absurd (h _ hmem) (by decide)

/-- Digits behind digits are digits. -/
private theorem isDigit_of_mem_append {left right : List Char} (hleft : ∀ c ∈ left, c.isDigit)
    (hright : ∀ c ∈ right, c.isDigit) : ∀ c ∈ left ++ right, c.isDigit := fun c hc =>
  (List.mem_append.mp hc).elim (hleft c) (hright c)

/-- Zeros are digits. -/
private theorem isDigit_of_mem_zeros (count : Nat) : ∀ c ∈ List.replicate count '0', c.isDigit :=
  fun _ hc => List.eq_of_mem_replicate hc ▸ rfl

/-- A power of ten is moved by the length of a fraction. -/
private theorem zpow_mul_pow {exponent : Int} {m n : Nat} (h : exponent + m = n) :
    (10 : ℚ) ^ exponent * 10 ^ m = 10 ^ n := by
  rw [← zpow_natCast, ← zpow_natCast, ← zpow_add₀ (by norm_num), h]

/-- Digits with a point after a number of them stand for the digits times a power of ten. -/
theorem shows_withPoint {digits : List Char} (hdigits : ∀ c ∈ digits, c.isDigit) (exponent : Int) :
    Shows (pointed (NumberLayout.plain.withPoint digits (digits.length + exponent))).toList
      (Nat.ofDigitChars 10 digits 0 * 10 ^ exponent) := by
  by_cases hnone : digits.length + exponent ≤ 0
  · -- the point comes before all digits
    rw [NumberLayout.withPoint, if_pos hnone, pointed_of_mem (by simp)]
    refine ⟨['0'], List.replicate (-(digits.length + exponent)).toNat '0' ++ digits,
      by simp [NumberLayout.toList_zeros], List.forall_mem_singleton.mpr rfl,
      isDigit_of_mem_append (isDigit_of_mem_zeros _) hdigits, ?_⟩
    have hlength : exponent + ((-(digits.length + exponent)).toNat + digits.length : Nat) =
        (0 : Nat) := by omega
    rw [List.length_append, List.length_replicate, mul_assoc, zpow_mul_pow hlength, pow_zero,
      mul_one, Nat.ofDigitChars_append, Nat.ofDigitChars_append, Nat.ofDigitChars_replicate_zero]
    rfl
  by_cases hall : (digits.length + exponent).toNat < digits.length
  · -- the point comes between digits
    rw [NumberLayout.withPoint, if_neg hnone, if_pos hall, pointed_of_mem (by simp)]
    refine ⟨digits.take (digits.length + exponent).toNat,
      digits.drop (digits.length + exponent).toNat, by simp,
      fun c hc => hdigits c (List.mem_of_mem_take hc),
      fun c hc => hdigits c (List.mem_of_mem_drop hc), ?_⟩
    have hlength : exponent + (digits.length - (digits.length + exponent).toNat : Nat) =
        (0 : Nat) := by omega
    rw [List.length_drop, List.take_append_drop, mul_assoc, zpow_mul_pow hlength, pow_zero, mul_one]
  · -- all digits come before the point
    have hzeros := isDigit_of_mem_append hdigits
      (isDigit_of_mem_zeros ((digits.length + exponent).toNat - digits.length))
    have htext : (NumberLayout.plain.withPoint digits (digits.length + exponent)).toList =
        digits ++
          List.replicate ((digits.length + exponent).toNat - digits.length) '0' := by
      rw [NumberLayout.withPoint, if_neg hnone, if_neg hall]
      simp [NumberLayout.toList_zeros, NumberLayout.plain]
    rw [pointed_of_not_mem (htext ▸ point_not_mem hzeros), String.toList_append, htext]
    refine ⟨digits ++ List.replicate ((digits.length + exponent).toNat - digits.length) '0', ['0'],
      by simp, hzeros, List.forall_mem_singleton.mpr rfl, ?_⟩
    have hlength : exponent + (1 : Nat) =
        ((digits.length + exponent).toNat - digits.length + 1 : Nat) := by omega
    rw [List.length_singleton, mul_assoc, zpow_mul_pow hlength, Nat.ofDigitChars_append,
      Nat.ofDigitChars_append, Nat.ofDigitChars_replicate_zero, pow_succ]
    simp [Nat.ofDigitChars]
    ring

/-- The digits of a decimal with a point stand for its value. -/
theorem shows_decimalText (decimal : Decimal) :
    Shows (pointed (NumberLayout.plain.decimalText decimal)).toList decimal.value := by
  have hdigits : ∀ c ∈ Nat.toDigits 10 decimal.digits, c.isDigit := fun _ =>
    Nat.isDigit_of_mem_toDigits (by decide) (by decide)
  have h := shows_withPoint hdigits decimal.exponent
  rwa [Nat.ofDigitChars_ten_toDigits] at h

/-- The number that the text of a double stands for, without its sign. -/
def shownMagnitude (b : Binary64) : ℚ :=
  if b.significand = 0 then 0 else (b.shortest .up).value

/-- The text of a finite double is that of its magnitude behind its sign. -/
theorem text_eq {x : Float} (h : x.isFinite) : ∃ magnitude : String,
    NumberLayout.plain.text x =
        (if (Binary64.ofFloat x).negative then "-" ++ magnitude else magnitude) ∧
      Shows (pointed magnitude).toList (shownMagnitude (Binary64.ofFloat x)) := by
  have hfinite := (Binary64.isFinite_ofFloat h).biased_lt.ne
  rw [NumberLayout.text, Binary64.isNaN, Binary64.isInfinite, shownMagnitude]
  simp only [hfinite, decide_false, Bool.false_and, Bool.false_eq_true, if_false]
  refine ⟨_, rfl, ?_⟩
  split
  · exact ⟨['0'], ['0'], rfl, List.forall_mem_singleton.mpr rfl,
      List.forall_mem_singleton.mpr rfl, by simp [Nat.ofDigitChars]⟩
  · exact shows_decimalText _

/-- A sign in front of a text does not count for its point. -/
private theorem pointed_minus (text : String) : pointed ("-" ++ text) = "-" ++ pointed text := by
  unfold pointed
  by_cases h : '.' ∈ text.toList <;> simp [h, String.append_assoc]

/-- A finite double is written as its sign and digits around a point. -/
theorem formatFloat_eq {x : Float} (h : x.isFinite) : ∃ magnitude : List Char,
    (formatFloat x).toList =
        (if (Binary64.ofFloat x).negative then '-' :: magnitude else magnitude) ∧
      Shows magnitude (shownMagnitude (Binary64.ofFloat x)) := by
  obtain ⟨magnitude, htext, hshows⟩ := text_eq h
  refine ⟨_, ?_, hshows⟩
  change (pointed (NumberLayout.plain.text x)).toList = _
  rw [htext]
  split
  · rw [pointed_minus]
    simp
  · rfl

/-- Written floating-point numbers consist of digits, minus signs and points, and show a point. -/
theorem formatFloat_chars {x : Float} (h : x.isFinite) : '.' ∈ (formatFloat x).toList ∧
    ∀ c ∈ (formatFloat x).toList, c.isDigit ∨ c = '-' ∨ c = '.' := by
  obtain ⟨magnitude, htext, hshows⟩ := formatFloat_eq h
  obtain ⟨hpoint, hchars⟩ := hshows.chars
  rw [htext]
  split
  · refine ⟨List.mem_cons_of_mem _ hpoint, fun c hc => ?_⟩
    rcases List.mem_cons.mp hc with rfl | hc
    · exact Or.inr (Or.inl rfl)
    · exact (hchars c hc).imp_right Or.inr
  · exact ⟨hpoint, fun c hc => (hchars c hc).imp_right Or.inr⟩

/-- The number that a text stands for rounds to its double, unless that is zero. -/
private theorem rounds_shownMagnitude {b : Binary64} (h : b.significand ≠ 0) :
    b.Rounds (shownMagnitude b) := by
  rw [shownMagnitude, if_neg h]
  exact Binary64.rounds_shortest _ h

/-- The text of a zero stands for zero. -/
private theorem shownMagnitude_of_zero {b : Binary64} (h : b.significand = 0) :
    shownMagnitude b = 0 :=
  if_pos h

/-- The number that the text of a finite double stands for determines its magnitude. -/
theorem shownMagnitude_inj {b c : Binary64} (hb : b.IsFinite) (hc : c.IsFinite)
    (h : shownMagnitude b = shownMagnitude c) : b.biased = c.biased ∧ b.fraction = c.fraction := by
  by_cases hbzero : b.significand = 0 <;> by_cases hczero : c.significand = 0
  · exact Binary64.fields_of_significand_eq_zero hbzero hczero
  · exact absurd (h ▸ shownMagnitude_of_zero hbzero)
      ((rounds_shownMagnitude hczero).pos hczero).ne'
  · exact absurd (h ▸ shownMagnitude_of_zero hczero)
      ((rounds_shownMagnitude hbzero).pos hbzero).ne'
  · exact (rounds_shownMagnitude hbzero).fields_eq (h ▸ rounds_shownMagnitude hczero) hb hc

/-- The text of a finite double determines it. -/
theorem formatFloat_injective {x y : Float} (hx : x.isFinite) (hy : y.isFinite)
    (h : formatFloat x = formatFloat y) : x = y := by
  obtain ⟨magnitude, htext, hshows⟩ := formatFloat_eq hx
  obtain ⟨magnitude', htext', hshows'⟩ := formatFloat_eq hy
  have hminus : ∀ {q : ℚ} {rest : List Char}, ¬ Shows ('-' :: rest) q := fun hq =>
    absurd (hq.chars.2 '-' List.mem_cons_self) (by decide)
  have hparts : (Binary64.ofFloat x).negative = (Binary64.ofFloat y).negative ∧
      magnitude = magnitude' := by
    rw [h, htext'] at htext
    split at htext <;> rename_i hy <;> split at htext <;> rename_i hx
    · exact ⟨by rw [hx, hy], (List.cons.inj htext).2.symm⟩
    · exact absurd (htext ▸ hshows) hminus
    · exact absurd (htext ▸ hshows') hminus
    · exact ⟨by simp [hx, hy], htext.symm⟩
  obtain ⟨hsign, rfl⟩ := hparts
  obtain ⟨hbiased, hfraction⟩ := shownMagnitude_inj (Binary64.isFinite_ofFloat hx)
    (Binary64.isFinite_ofFloat hy) (hshows.unique hshows')
  apply Binary64.ofFloat_injective
  rw [Binary64.mk.injEq]
  exact ⟨hsign, hbiased, hfraction⟩

end SourceText

end ComponentAtlas

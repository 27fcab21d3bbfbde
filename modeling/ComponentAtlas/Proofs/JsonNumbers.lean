import ComponentAtlas.Json.Reader
import ComponentAtlas.Json.Writer
import ComponentAtlas.Proofs.Lexemes

/-!
# Numbers in JSON

A number of JSON is digits without a needless zero, behind a minus sign when it is negative, then
perhaps a point with further digits and perhaps an exponent. The reader takes all of it, whatever
follows, as long as that cannot belong to a number. An integer that fits into a word comes back as
itself.
-/

namespace ComponentAtlas

open SourceText (StartsOutside startsOutside_cons startsOutside_nil)

namespace DecimalText

/-- The value of a digit. -/
def digitValue (c : Char) : Nat := c.toNat - '0'.toNat

/-- A digit is read as its value, and nothing else is read. -/
theorem digit?_eq (c : Char) : digit? c = if c.isDigit then some (digitValue c) else none := by
  have hiff : ('0' ≤ c ∧ c ≤ '9') ↔ (c.val ≥ 48 && c.val ≤ 57) = true := by
    rw [Bool.and_eq_true, decide_eq_true_iff, decide_eq_true_iff]
    rfl
  unfold digit? Char.isDigit
  simp only [hiff]
  rfl

/-- A word of digits ends before the first character that is no digit. -/
theorem spanDigits_append {word rest : List Char} (hword : ∀ c ∈ word, c.isDigit)
    (hrest : StartsOutside Char.isDigit rest) :
    spanDigits (word ++ rest) = (word.map digitValue, rest) := by
  induction word with
  | nil =>
    cases rest with
    | nil => rfl
    | cons c rest => simp [spanDigits, digit?_eq, startsOutside_cons.mp hrest]
  | cons c word ih =>
    obtain ⟨hc, hword⟩ := List.forall_mem_cons.mp hword
    simp [spanDigits, digit?_eq, hc, ih hword]

/-- The reader of an exponent takes a sign and a word of digits. -/
theorem readExponent?_append {sign : Char} {word : List Char} (hsign : sign = '+' ∨ sign = '-')
    (hne : word ≠ []) (hword : ∀ c ∈ word, c.isDigit) :
    ∃ exponent, ∀ rest, StartsOutside Char.isDigit rest →
      readExponent? (sign :: (word ++ rest)) = some (exponent, rest) := by
  obtain ⟨c, word, rfl⟩ := List.exists_cons_of_ne_nil hne
  have hspan : ∀ rest, StartsOutside Char.isDigit rest →
      spanDigits (c :: (word ++ rest)) = (digitValue c :: word.map digitValue, rest) := by
    intro rest hrest
    exact spanDigits_append hword hrest
  rcases hsign with rfl | rfl
  · refine ⟨value ((c :: word).map digitValue), fun rest hrest => ?_⟩
    simp [readExponent?, hspan rest hrest]
  · refine ⟨-value ((c :: word).map digitValue), fun rest hrest => ?_⟩
    simp [readExponent?, hspan rest hrest]

end DecimalText

namespace Json

open DecimalText (spanDigits digitValue)

/-- Whether a character can continue a number. -/
def continuesNumber (c : Char) : Bool :=
  c.isDigit || c == '.' || c == 'e' || c == 'E'

/-- Whether a text is the part of a number before its point: digits without a needless zero. -/
structure IsWhole (text : List Char) : Prop where
  ne_nil : text ≠ []
  isDigit : ∀ c ∈ text, c.isDigit
  noZero : text.head? = some '0' → text.length = 1

/-- Whether a text is the part of a number from its point on, if it has one. -/
def IsFraction (text : List Char) : Prop :=
  text = [] ∨ ∃ word, text = '.' :: word ∧ word ≠ [] ∧ ∀ c ∈ word, c.isDigit

/-- Whether a text is an exponent with its sign, or nothing. -/
def IsExponent (text : List Char) : Prop :=
  text = [] ∨ ∃ sign word, text = 'e' :: sign :: word ∧ (sign = '+' ∨ sign = '-') ∧ word ≠ [] ∧
    ∀ c ∈ word, c.isDigit

/-- Nothing follows a leading zero. -/
theorem IsWhole.length_eq_one {text : List Char} (h : IsWhole text) {c : Char}
    (hc : text.head? = some c) (hzero : digitValue c = 0) : text.length = 1 := by
  have hdigit := h.isDigit c (List.mem_of_mem_head? hc)
  refine h.noZero (hc.trans (congrArg some ?_))
  apply Char.ext
  apply UInt32.toNat_inj.mp
  simp only [Char.isDigit, Bool.and_eq_true, decide_eq_true_eq, ge_iff_le,
    UInt32.le_iff_toNat_le] at hdigit
  simp only [digitValue, Char.toNat] at hzero
  have hlow : 48 ≤ c.val.toNat := hdigit.1
  have hbound : c.val.toNat - 48 = 0 := hzero
  change c.val.toNat = 48
  omega

/-- A number without its sign, part by part. -/
structure NumberText where
  whole : List Char
  fraction : List Char := []
  exponent : List Char := []
  isWhole : IsWhole whole
  isFraction : IsFraction fraction := by exact Or.inl rfl
  isExponent : IsExponent exponent := by exact Or.inl rfl

namespace NumberText

/-- The text of a number without its sign. -/
def text (number : NumberText) : List Char :=
  number.whole ++ (number.fraction ++ number.exponent)

/-- Whether a number shows a point or an exponent. -/
def isFractional (number : NumberText) : Bool :=
  !number.fraction.isEmpty || !number.exponent.isEmpty

/-- The text of a number starts with a digit. -/
theorem exists_text_eq_cons (number : NumberText) :
    ∃ c rest, number.text = c :: rest ∧ c.isDigit := by
  obtain ⟨c, rest, hwhole⟩ := List.exists_cons_of_ne_nil number.isWhole.ne_nil
  refine ⟨c, rest ++ (number.fraction ++ number.exponent), by simp [text, hwhole], ?_⟩
  exact number.isWhole.isDigit c (hwhole ▸ List.mem_cons_self)

end NumberText

/-- Reads the part of a number from its point on; the last component is whether it has a point. -/
def readFraction? : List Char → Option (List Nat × List Char × Bool)
  | '.' :: rest =>
    if (spanDigits rest).1.isEmpty then none
    else some ((spanDigits rest).1, (spanDigits rest).2, true)
  | rest => some ([], rest, false)

/-- Reads the exponent of a number; the last component is whether it has one. -/
def readPower? : List Char → Option (Int × List Char × Bool)
  | [] => some (0, [], false)
  | c :: rest =>
    if c = 'e' ∨ c = 'E' then
      (DecimalText.readExponent? rest).map fun (exponent, after) => (exponent, after, true)
    else some (0, c :: rest, false)

/-- What the reader does after the fraction is to read the exponent. -/
theorem readPower?_map (negative : Bool) (whole fraction : List Nat) (pointed : Bool)
    (text : List Char) :
    (match text with
      | c :: rest =>
        if c = 'e' ∨ c = 'E' then do
          let (exponent, after) ← DecimalText.readExponent? rest
          return (⟨negative, whole, fraction, exponent⟩, true, after)
        else return (⟨negative, whole, fraction, 0⟩, pointed, text)
      | [] => return (⟨negative, whole, fraction, 0⟩, pointed, [])) =
    (readPower? text).map fun (exponent, rest, scaled) =>
      ((⟨negative, whole, fraction, exponent⟩ : DecimalText), pointed || scaled, rest) := by
  cases text with
  | nil => simp [readPower?]
  | cons c rest =>
    by_cases hc : c = 'e' ∨ c = 'E'
    · cases hread : DecimalText.readExponent? rest <;> simp [readPower?, hc, hread]
    · simp [readPower?, hc]

/-- A number is read part by part. -/
theorem readMagnitude_eq (negative : Bool) (text : List Char) :
    readMagnitude negative text =
      let (whole, afterWhole) := spanDigits text
      if whole.isEmpty || (whole.head? = some 0 && whole.length ≠ 1) then none
      else (readFraction? afterWhole).bind fun (fraction, afterFraction, pointed) =>
        (readPower? afterFraction).map fun (exponent, rest, scaled) =>
          (⟨negative, whole, fraction, exponent⟩, pointed || scaled, rest) := by
  unfold readMagnitude
  obtain ⟨whole, afterWhole⟩ := spanDigits text
  dsimp only
  split
  · rfl
  · split
    · rename_i rest
      by_cases hnone : (spanDigits rest).1.isEmpty
      · simp [readFraction?, hnone]
      · simp only [readFraction?, hnone]
        exact readPower?_map ..
    · rename_i hpoint
      rw [readFraction?.eq_2 _ hpoint]
      exact readPower?_map ..

/-- Whether a text cannot continue a number. -/
abbrev EndsNumber (text : List Char) : Prop := StartsOutside continuesNumber text

/-- What cannot continue a number starts with no digit. -/
theorem EndsNumber.isDigit {text : List Char} (h : EndsNumber text) :
    StartsOutside Char.isDigit text := by
  intro c hc
  have hends := h c hc
  simp only [continuesNumber, Bool.or_eq_false_iff] at hends
  exact hends.1.1.1

/-- Where there is no point, there is no fraction to be read. -/
theorem readFraction?_of_ne_point {text : List Char} (h : text.head? ≠ some '.') :
    readFraction? text = some ([], text, false) := by
  refine readFraction?.eq_2 _ fun rest htext => ?_
  rw [htext] at h
  exact h rfl

/-- The reader of a fraction takes all of it. -/
theorem readFraction?_append {fraction : List Char} (h : IsFraction fraction) :
    ∃ digits, ∀ rest, StartsOutside Char.isDigit rest → rest.head? ≠ some '.' →
      readFraction? (fraction ++ rest) = some (digits, rest, !fraction.isEmpty) := by
  rcases h with rfl | ⟨word, rfl, hne, hword⟩
  · exact ⟨[], fun rest _ hpoint => readFraction?_of_ne_point hpoint⟩
  · refine ⟨word.map DecimalText.digitValue, fun rest hrest _ => ?_⟩
    simp [readFraction?, DecimalText.spanDigits_append hword hrest, hne]

/-- The reader of an exponent takes all of it. -/
theorem readPower?_append {exponent : List Char} (h : IsExponent exponent) :
    ∃ power, ∀ rest, EndsNumber rest →
      readPower? (exponent ++ rest) = some (power, rest, !exponent.isEmpty) := by
  rcases h with rfl | ⟨sign, word, rfl, hsign, hne, hword⟩
  · refine ⟨0, fun rest hrest => ?_⟩
    cases rest with
    | nil => rfl
    | cons c rest =>
      rw [EndsNumber, startsOutside_cons] at hrest
      simp_all [readPower?, continuesNumber]
  · obtain ⟨power, hpower⟩ := DecimalText.readExponent?_append hsign hne hword
    refine ⟨power, fun rest hrest => ?_⟩
    simp [readPower?, hpower rest hrest.isDigit]

/-- The reader takes all parts of a number, and tells whether it has more than digits. -/
theorem readMagnitude_append (negative : Bool) (number : NumberText) :
    ∃ decimal : DecimalText, decimal.negative = negative ∧
      decimal.whole = number.whole.map digitValue ∧ ∀ rest, EndsNumber rest →
        readMagnitude negative (number.text ++ rest) =
          some (decimal, number.isFractional, rest) := by
  obtain ⟨whole, fraction, exponent, hwhole, hfraction, hexponent⟩ := number
  obtain ⟨digits, hdigits⟩ := readFraction?_append hfraction
  obtain ⟨power, hpower⟩ := readPower?_append hexponent
  refine ⟨⟨negative, whole.map digitValue, digits, power⟩, rfl, rfl, fun rest hrest => ?_⟩
  have hdigit : StartsOutside Char.isDigit (exponent ++ rest) := by
    rcases hexponent with rfl | ⟨sign, word, rfl, -⟩
    · exact hrest.isDigit
    · exact startsOutside_cons.mpr (by decide)
  have hpoint : (exponent ++ rest).head? ≠ some '.' := by
    rcases hexponent with rfl | ⟨sign, word, rfl, -⟩
    · intro hhead
      exact absurd (hrest '.' hhead) (by decide)
    · simp
  have hspan : spanDigits (whole ++ (fraction ++ (exponent ++ rest))) =
      (whole.map digitValue, fraction ++ (exponent ++ rest)) := by
    apply DecimalText.spanDigits_append hwhole.isDigit
    rcases hfraction with rfl | ⟨word, rfl, -⟩
    · exact hdigit
    · exact startsOutside_cons.mpr (by decide)
  have hguard : ¬((whole.map digitValue).isEmpty || ((whole.map digitValue).head? = some 0 &&
      (whole.map digitValue).length ≠ 1)) := by
    simpa [hwhole.ne_nil] using fun c => hwhole.length_eq_one
  rw [NumberText.text, List.append_assoc, List.append_assoc, readMagnitude_eq, hspan]
  dsimp only
  rw [if_neg hguard, hdigits _ hdigit hpoint, Option.bind_some, hpower _ hrest]
  rfl

/-- The sign in front of a number. -/
def signText (negative : Bool) : List Char :=
  if negative then ['-'] else []

/-- A number is read behind its sign. -/
theorem readNumber_signText (negative : Bool) {text : List Char} (h : text.head? ≠ some '-') :
    readNumber (signText negative ++ text) =
      (readMagnitude negative text).map fun (number, fractional, rest) =>
        (numberDocument number fractional, rest) := by
  cases negative with
  | true =>
    change (readMagnitude true text).bind _ = _
    cases readMagnitude true text <;> rfl
  | false =>
    have hbind : readNumber text = (readMagnitude false text).bind fun (number, fractional, rest) =>
        some (numberDocument number fractional, rest) := by
      unfold readNumber
      split
      · exact absurd rfl h
      · rfl
    change readNumber text = _
    rw [hbind]
    cases readMagnitude false text <;> rfl

/-- The reader takes all of a number with its sign, and tells whether it has more than digits. -/
theorem readNumber_append (negative : Bool) (number : NumberText) :
    ∃ decimal : DecimalText, decimal.negative = negative ∧
      decimal.whole = number.whole.map digitValue ∧ ∀ rest, EndsNumber rest →
        readNumber (signText negative ++ (number.text ++ rest)) =
          some (numberDocument decimal number.isFractional, rest) := by
  obtain ⟨decimal, hnegative, hdigits, hread⟩ := readMagnitude_append negative number
  refine ⟨decimal, hnegative, hdigits, fun rest hrest => ?_⟩
  obtain ⟨c, more, htext, hc⟩ := number.exists_text_eq_cons
  have hminus : (number.text ++ rest).head? ≠ some '-' := by
    rw [htext]
    rintro ⟨⟩
    exact absurd hc (by decide)
  rw [readNumber_signText negative hminus, hread rest hrest]
  rfl

/-- Only the digits of zero start with a zero. -/
theorem eq_zero_of_head?_toDigits {n : Nat} (h : (Nat.toDigits 10 n).head? = some '0') :
    n = 0 := by
  induction n using Nat.strongRecOn with
  | ind n ih =>
    by_cases hlt : n < 10
    · rw [Nat.toDigits_of_lt_base hlt] at h
      exact Nat.digitChar_eq_zero.mp (Option.some.inj h)
    · have hsome : (Nat.toDigits 10 (n / 10)).head?.isSome :=
        List.isSome_head?.mpr Nat.toDigits_ne_nil
      rw [Nat.toDigits_of_base_le (by decide) (by omega), List.head?_append,
        Option.or_of_isSome hsome] at h
      have hquotient := ih (n / 10) (by omega) h
      omega

/-- The digits of a natural number have no needless zero. -/
theorem isWhole_toDigits (n : Nat) : IsWhole (Nat.toDigits 10 n) where
  ne_nil := Nat.toDigits_ne_nil
  isDigit _ := Nat.isDigit_of_mem_toDigits (by decide) (by decide)
  noZero h := by
    rw [eq_zero_of_head?_toDigits h]
    rfl

/-- The digits of a natural number stand for it. -/
theorem value_toDigits (n : Nat) :
    DecimalText.value ((Nat.toDigits 10 n).map digitValue) = n := by
  have h := Nat.ofDigitChars_ten_toDigits (n := n)
  rw [Nat.ofDigitChars_eq_foldl] at h
  rw [DecimalText.value, List.foldl_map]
  exact h

/-- An integer is written as its sign and the digits of its magnitude. -/
theorem toList_toString_int (n : Int) :
    (toString n).toList = signText (n < 0) ++ Nat.toDigits 10 n.natAbs := by
  rw [Int.toString_eq_repr, Int.repr_eq_if]
  by_cases hn : 0 ≤ n
  · have habs : n.toNat = n.natAbs := by omega
    have hsign : ¬n < 0 := by omega
    simp [hn, hsign, habs, signText]
  · have habs : (-n).toNat = n.natAbs := by omega
    have hsign : n < 0 := by omega
    simp [hn, hsign, habs, signText]

/-- An integer that fits into a word comes back as itself. -/
theorem readNumber_toString {n : Int} (h : fitsBits 64 n) {rest : List Char}
    (hrest : EndsNumber rest) :
    readNumber ((toString n).toList ++ rest) = some (.integer n, rest) := by
  let number : NumberText := { whole := Nat.toDigits 10 n.natAbs, isWhole := isWhole_toDigits _ }
  obtain ⟨decimal, hnegative, hdigits, hread⟩ := readNumber_append (n < 0) number
  have htext : (toString n).toList ++ rest = signText (n < 0) ++ (number.text ++ rest) := by
    rw [toList_toString_int, List.append_assoc, NumberText.text, List.append_nil, List.append_nil]
  have hvalue : DecimalText.value decimal.whole = n.natAbs := by rw [hdigits, value_toDigits]
  have hfractional : number.isFractional = false := rfl
  rw [htext, hread rest hrest, hfractional, numberDocument, hvalue, hnegative]
  simp only [fitsBits, Bool.and_eq_true, decide_eq_true_eq] at h
  by_cases hn : n < 0
  · have hmin : -(twoTo 63 : Int) ≤ n := h.1
    have hpos : 0 < n.natAbs := by omega
    have hle : n.natAbs ≤ twoTo 63 := by omega
    have habs : -(n.natAbs : Int) = n := by omega
    generalize n.natAbs = magnitude at hpos hle habs ⊢
    simp [hn, hpos, hle, habs]
  · have hlt : n.natAbs < twoTo 64 := by omega
    have habs : (n.natAbs : Int) = n := by omega
    generalize n.natAbs = magnitude at hlt habs ⊢
    simp [hn, hlt, habs]

end Json

end ComponentAtlas

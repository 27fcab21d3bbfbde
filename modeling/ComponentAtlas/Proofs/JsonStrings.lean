import ComponentAtlas.Json.Reader
import ComponentAtlas.Json.Writer

/-!
# Strings in JSON

Every character of a string is written as itself or behind a backslash, and the reader finds it
again piece by piece. Only control characters are written as code units, and none of them is half of
a surrogate pair. So every string comes back as itself.
-/

namespace ComponentAtlas.Json

/-- A code unit that is no half of a surrogate pair stands for a character of its own. -/
theorem joinPieces_unit {code : Nat} (h : code < 0xd800) (pieces : List Piece) :
    joinPieces (.unit code :: pieces) = (joinPieces pieces).map (Char.ofNat code :: ·) := by
  have hhigh : isHighSurrogate code = false := by
    simp only [isHighSurrogate, Bool.and_eq_false_iff, decide_eq_false_iff_not]
    omega
  have hlow : isLowSurrogate code = false := by
    simp only [isLowSurrogate, Bool.and_eq_false_iff, decide_eq_false_iff_not]
    omega
  cases pieces with
  | nil => simp [joinPieces, hhigh, hlow]
  | cons piece pieces =>
    cases piece with
    | char c => simp [joinPieces, hhigh, hlow, Function.comp_def]
    | unit next => simp [joinPieces, hhigh, hlow]

/-- The digits of a control character stand for its code unit. -/
theorem hexWord?_hexDigit {code : Nat} (h : code < 32) :
    hexWord? '0' '0' (hexDigit (code / 16)) (hexDigit (code % 16)) = some code := by
  revert code
  decide

/-- Whether a piece of a string stands for a character. -/
def Piece.StandsFor (piece : Piece) (c : Char) : Prop :=
  ∀ pieces, joinPieces (piece :: pieces) = (joinPieces pieces).map (c :: ·)

/-- A character is written behind a backslash as a letter, as a code unit, or as itself. -/
theorem escapeChar_cases (c : Char) :
    (∃ letter, letter ≠ 'u' ∧ escaped? letter = some c ∧ escapeChar c = ['\\', letter]) ∨
      (c.toNat < 32 ∧ escapeChar c =
        ['\\', 'u', '0', '0', hexDigit (c.toNat / 16), hexDigit (c.toNat % 16)]) ∨
      (¬c.toNat < 32 ∧ c ≠ '"' ∧ c ≠ '\\' ∧ escapeChar c = [c]) := by
  unfold escapeChar
  split
  · exact Or.inl ⟨'"', by decide, rfl, rfl⟩
  · exact Or.inl ⟨'\\', by decide, rfl, rfl⟩
  · exact Or.inl ⟨'n', by decide, rfl, rfl⟩
  · exact Or.inl ⟨'r', by decide, rfl, rfl⟩
  · exact Or.inl ⟨'t', by decide, rfl, rfl⟩
  · exact Or.inl ⟨'b', by decide, rfl, rfl⟩
  · exact Or.inl ⟨'f', by decide, rfl, rfl⟩
  · rename_i hquote hbackslash _ _ _ _ _
    right
    by_cases hcontrol : c.toNat < 32
    · exact Or.inl ⟨hcontrol, if_pos hcontrol⟩
    · exact Or.inr ⟨hcontrol, hquote, hbackslash, if_neg hcontrol⟩

/-- The reader takes one piece for one written character. -/
theorem readPieces_escapeChar (c : Char) : ∃ piece : Piece, piece.StandsFor c ∧ ∀ rest,
    readPieces (escapeChar c ++ rest) =
      (readPieces rest).map fun (pieces, after) => (piece :: pieces, after) := by
  rcases escapeChar_cases c with ⟨letter, hletter, hescaped, htext⟩ | ⟨hcontrol, htext⟩ |
    ⟨hplain, hquote, hbackslash, htext⟩
  · refine ⟨.char c, fun pieces => by rw [joinPieces], fun rest => ?_⟩
    rw [htext]
    cases hread : readPieces rest <;> simp [readPieces, hletter, hescaped, hread]
  · refine ⟨.unit c.toNat, fun pieces => ?_, fun rest => ?_⟩
    · rw [joinPieces_unit (by omega), Char.ofNat_toNat]
    · rw [htext]
      cases hread : readPieces rest <;> simp [readPieces, hexWord?_hexDigit hcontrol, hread]
  · refine ⟨.char c, fun pieces => by rw [joinPieces], fun rest => ?_⟩
    rw [htext]
    cases hread : readPieces rest <;> simp [readPieces, hplain, hbackslash, hread]

/-- A written string is read up to its closing quote. -/
theorem readPieces_escaped (chars rest : List Char) : ∃ pieces,
    readPieces (chars.flatMap escapeChar ++ '"' :: rest) = some (pieces, rest) ∧
      joinPieces pieces = some chars := by
  induction chars with
  | nil => exact ⟨[], rfl, rfl⟩
  | cons c chars ih =>
    obtain ⟨pieces, hread, hjoin⟩ := ih
    obtain ⟨piece, hstands, hpiece⟩ := readPieces_escapeChar c
    refine ⟨piece :: pieces, ?_, ?_⟩
    · rw [List.flatMap_cons, List.append_assoc, hpiece, hread]
      rfl
    · rw [hstands, hjoin]
      rfl

/-- A string comes back as itself, whatever follows its closing quote. -/
theorem readString_quote (text : String) (rest : List Char) :
    readString (text.toList.flatMap escapeChar ++ '"' :: rest) = some (.text text, rest) := by
  obtain ⟨pieces, hread, hjoin⟩ := readPieces_escaped text.toList rest
  simp [readString, hread, hjoin]

/-- A text is quoted by escaping its characters between two quotes. -/
theorem toList_quote (text : String) :
    (quote text).toList = '"' :: (text.toList.flatMap escapeChar ++ ['"']) := by
  simp [quote]

end ComponentAtlas.Json

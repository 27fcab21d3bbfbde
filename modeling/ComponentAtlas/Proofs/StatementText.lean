import ComponentAtlas.Proofs.FloatText
import ComponentAtlas.Proofs.Statements
import Std.Data.String.ToInt

/-!
# Text of statements

The characters of a sequence of statements determine the statements. Targets end before a space,
values at the end of a line, and a body where the indentation is followed by a closing brace or by
nothing.
-/

namespace ComponentAtlas.SourceText

namespace Inline

/-- Whether a value has a form in source text that ends with its line. -/
def IsReadable : Inline → Prop
  | literal value => value.isRenderable
  | expression text => '\n' ∉ text.toList
  | name prototype => IsPrototypeName prototype

/-- The first character of a value that is written between quotes or braces. All other values are
words. -/
def opener : Inline → Option Char
  | literal (.string _) => some '\''
  | expression _ => some '$'
  | literal _ | name _ => none

end Inline

mutual

/-- Whether all values and names in what a statement says have a form in source text. -/
def Content.IsReadable : Content → Prop
  | .inline value => value.IsReadable
  | .extended prototype body => IsPrototypeName prototype ∧ BodyIsReadable body
  | .block body => BodyIsReadable body

/-- Whether all values and names in a body have a form in source text. -/
def BodyIsReadable : List (Target × Content) → Prop
  | [] => True
  | (_, content) :: rest => content.IsReadable ∧ BodyIsReadable rest

end

section Words

/-- The kinds of words. -/
inductive WordClass
  | name
  | float
  | integer
  | keyword

/-- The kind of a word: prototype names show a colon, floating-point numbers a point and integers
nothing but digits and a sign. -/
def wordClass (text : List Char) : WordClass :=
  if ':' ∈ text then .name
  else if '.' ∈ text then .float
  else if text.all fun c => c.isDigit || c == '-' then .integer
  else .keyword

/-- The name of a prototype is a word of the kind of names. -/
theorem wordClass_name {name : String} (h : IsPrototypeName name) : wordClass name.toList = .name :=
  if_pos h.1

/-- A finite floating-point number is written as a word of its kind. -/
theorem wordClass_float {value : Float} (h : value.isFinite) :
    wordClass (formatFloat value).toList = .float := by
  obtain ⟨hpoint, hchars⟩ := formatFloat_chars h
  have hcolon : ':' ∉ (formatFloat value).toList := fun hmem =>
    absurd (hchars ':' hmem) (by decide)
  rw [wordClass, if_neg hcolon, if_pos hpoint]

/-- An integer is written in digits and with a minus sign at most. -/
theorem chars_of_integer (n : Int) : ∀ c ∈ (toString n).toList, c.isDigit ∨ c = '-' := by
  have hdigits : ∀ (m : Nat), ∀ c ∈ (toString m).toList, c.isDigit := fun m c hc => by
    rw [Nat.toString_eq_repr, Nat.repr_eq_ofList_toDigits, String.toList_ofList] at hc
    exact Nat.isDigit_of_mem_toDigits (by decide) (by decide) hc
  intro c hc
  rw [Int.toString_eq_repr, Int.repr_eq_if] at hc
  split at hc
  · exact Or.inl (hdigits _ c hc)
  · rw [String.toList_append] at hc
    rcases List.mem_append.mp hc with hc | hc
    · exact Or.inr (List.mem_singleton.mp hc)
    · exact Or.inl (hdigits _ c hc)

/-- An integer is written as a word of its kind. -/
theorem wordClass_integer (n : Int) : wordClass (toString n).toList = .integer := by
  have hchars := chars_of_integer n
  have hcolon : ':' ∉ (toString n).toList := fun hmem => absurd (hchars ':' hmem) (by decide)
  have hpoint : '.' ∉ (toString n).toList := fun hmem => absurd (hchars '.' hmem) (by decide)
  have hall : (toString n).toList.all fun c => c.isDigit || c == '-' := by
    simpa using hchars
  rw [wordClass, if_neg hcolon, if_neg hpoint, if_pos hall]

/-- The kind of the word that a value is written as. -/
def Inline.wordClass : Inline → WordClass
  | .name _ => .name
  | .literal (.float _) => .float
  | .literal (.integer _) => .integer
  | _ => .keyword

/-- The text of a value that opens nothing is a word of its kind. -/
theorem Inline.wordClass_text {value : Inline} (h : value.IsReadable)
    (hword : value.opener = none) : SourceText.wordClass value.text.toList = value.wordClass := by
  match value with
  | .name prototype => exact wordClass_name h
  | .literal (.float value) => exact wordClass_float h
  | .literal (.integer value) => exact wordClass_integer _
  | .literal .null => rfl
  | .literal (.bool true) => rfl
  | .literal (.bool false) => rfl

/-- Words determine the values they are written for. -/
theorem Inline.text_injective {a b : Inline} (ha : a.IsReadable) (hb : b.IsReadable)
    (haword : a.opener = none) (hbword : b.opener = none) (h : a.text = b.text) : a = b := by
  have hclass : a.wordClass = b.wordClass := by
    rw [← wordClass_text ha haword, ← wordClass_text hb hbword, h]
  match a, b with
  | .name _, .name _ => exact congrArg name h
  | .literal (.float _), .literal (.float _) =>
    exact congrArg (literal ∘ .float) (formatFloat_injective ha hb h)
  | .literal (.integer _), .literal (.integer _) =>
    exact congrArg (literal ∘ .integer) (Int64.toInt_inj.mp (Int.repr_injective h))
  | .literal .null, .literal .null => rfl
  | .literal .null, .literal (.bool value) => cases value <;> exact absurd h (by decide)
  | .literal (.bool value), .literal .null => cases value <;> exact absurd h (by decide)
  | .literal (.bool left), .literal (.bool right) =>
    cases left <;> cases right <;> first | rfl | exact absurd h (by decide)

/-- A value that opens nothing is written in characters of names. -/
theorem Inline.chars_of_word {value : Inline} (h : value.IsReadable) (hword : value.opener = none) :
    ∀ c ∈ value.text.toList, isNameChar c := by
  have hdigit : ∀ {c : Char}, c.isDigit ∨ c = '-' ∨ c = '.' → isNameChar c := by
    intro c hc
    rcases hc with hc | rfl | rfl
    · simp [isNameChar, isBareKeyChar, Char.isAlphanum, hc]
    · rfl
    · rfl
  match value with
  | .name prototype => exact IsPrototypeName.isNameChar h
  | .literal (.float value) => exact fun c hc => hdigit ((formatFloat_chars h).2 c hc)
  | .literal (.integer value) =>
    exact fun c hc => hdigit ((chars_of_integer _ c hc).imp_right Or.inl)
  | .literal .null => exact List.all_eq_true.mp rfl
  | .literal (.bool true) => exact List.all_eq_true.mp rfl
  | .literal (.bool false) => exact List.all_eq_true.mp rfl

end Words

section Values

/-- The character at the start of a text if it opens quotes or braces. -/
def openerOf (text : List Char) : Option Char :=
  text.head?.filter fun c => c == '\'' || c == '$'

/-- A word that ends before an opener opens nothing. -/
theorem openerOf_word {word rest : List Char} {stop : Char} (hword : ∀ c ∈ word, isNameChar c)
    (hstop : stop ≠ '\'' ∧ stop ≠ '$') : openerOf (word ++ stop :: rest) = none := by
  cases word with
  | nil => simpa [openerOf] using hstop
  | cons c word =>
    have hc := hword c List.mem_cons_self
    have hne : c ≠ '\'' ∧ c ≠ '$' :=
      ⟨fun heq => absurd (heq ▸ hc) (by decide), fun heq => absurd (heq ▸ hc) (by decide)⟩
    simpa [openerOf] using hne

/-- A value that opens quotes is a string, and one that opens braces an expression. -/
theorem Inline.opener_cases {value : Inline} {c : Char} (h : value.opener = some c) :
    c = '\'' ∧ (∃ text, value = .literal (.string text)) ∨
      c = '$' ∧ ∃ text, value = .expression text := by
  match value with
  | .literal (.string text) => exact Or.inl ⟨(Option.some.inj h).symm, text, rfl⟩
  | .expression text => exact Or.inr ⟨(Option.some.inj h).symm, text, rfl⟩

/-- An expression is written between braces behind a dollar sign. -/
theorem toList_text_expression (text : String) : (Inline.expression text).text.toList =
    '$' :: '\x7b' :: (text.toList ++ ['\x7d']) := by
  simp [Inline.text]

/-- The opener of a value shows at the start of its text. -/
theorem Inline.openerOf_text {value : Inline} (h : value.IsReadable) (rest : List Char) :
    openerOf (value.text.toList ++ '\n' :: rest) = value.opener := by
  cases hopener : value.opener with
  | none => exact openerOf_word (chars_of_word h hopener) (by decide)
  | some c =>
    rcases opener_cases hopener with ⟨rfl, text, rfl⟩ | ⟨rfl, text, rfl⟩
    · have htext : (Inline.literal (.string text)).text.toList = _ := toList_enclose '\'' text
      rw [htext]
      rfl
    · rw [toList_text_expression]
      rfl

/-- An expression on one line ends with its line. -/
theorem expression_append_inj {s t : String} (hs : '\n' ∉ s.toList) (ht : '\n' ∉ t.toList)
    {u v : List Char} (h : (Inline.expression s).text.toList ++ '\n' :: u =
      (Inline.expression t).text.toList ++ '\n' :: v) : s = t ∧ u = v := by
  have hline : ∀ {text : List Char}, '\n' ∉ text → ∀ c ∈ text ++ ['\x7d'], c != '\n' := by
    intro text htext c hc
    rcases List.mem_append.mp hc with hc | hc
    · exact bne_iff_ne.mpr fun heq => htext (heq ▸ hc)
    · rw [List.mem_singleton.mp hc]
      rfl
  simp only [toList_text_expression, List.cons_append, List.cons.injEq, true_and] at h
  obtain ⟨htext, hrest⟩ := word_append_inj (hline hs) (hline ht) (startsOutside_cons.mpr rfl)
    (startsOutside_cons.mpr rfl) h
  exact ⟨String.toList_inj.mp (List.append_cancel_right htext), (List.cons.inj hrest).2⟩

/-- A value ends with its line. -/
theorem Inline.text_append_inj {a b : Inline} (ha : a.IsReadable) (hb : b.IsReadable)
    {u v : List Char} (h : a.text.toList ++ '\n' :: u = b.text.toList ++ '\n' :: v) :
    a = b ∧ u = v := by
  have hopener : a.opener = b.opener := by
    rw [← openerOf_text ha u, h, openerOf_text hb v]
  cases haopener : a.opener with
  | none =>
    have hbopener := hopener ▸ haopener
    obtain ⟨hword, hrest⟩ := word_append_inj (chars_of_word ha haopener)
      (chars_of_word hb hbopener) (startsOutside_cons.mpr rfl) (startsOutside_cons.mpr rfl) h
    exact ⟨text_injective ha hb haopener hbopener (String.toList_inj.mp hword),
      (List.cons.inj hrest).2⟩
  | some c =>
    rcases opener_cases haopener with ⟨hc, s, rfl⟩ | ⟨hc, s, rfl⟩ <;>
      rcases opener_cases (hopener ▸ haopener) with ⟨hc', t, rfl⟩ | ⟨hc', t, rfl⟩
    · obtain ⟨rfl, hrest⟩ := quoteString_append_inj h
      exact ⟨rfl, (List.cons.inj hrest).2⟩
    · exact absurd (hc.symm.trans hc') (by decide)
    · exact absurd (hc.symm.trans hc') (by decide)
    · obtain ⟨rfl, hrest⟩ := expression_append_inj ha hb h
      exact ⟨rfl, hrest⟩

/-- A value that ends with its line is no prototype name with a body. -/
theorem Inline.text_append_ne {value : Inline} (hvalue : value.IsReadable) {prototype : String}
    (hname : IsPrototypeName prototype) {u v : List Char} :
    value.text.toList ++ '\n' :: u ≠ prototype.toList ++ ' ' :: v := by
  intro h
  have hword : value.opener = none := by
    rw [← openerOf_text hvalue u, h, openerOf_word hname.isNameChar (by decide)]
  obtain ⟨-, hrest⟩ := word_append_inj (chars_of_word hvalue hword) hname.isNameChar
    (startsOutside_cons.mpr rfl) (startsOutside_cons.mpr rfl) h
  exact absurd (List.cons.inj hrest).1 (by decide)

end Values

section Targets

/-- No key starts with an at sign as it is written. -/
theorem formatKey_append_ne_at {key : String} {u v : List Char} :
    (formatKey key).toList ++ u ≠ '@' :: v := by
  intro h
  obtain ⟨c, rest, hlist, hc⟩ := formatKey_eq_cons key
  rw [hlist] at h
  obtain ⟨rfl, -⟩ := List.cons.inj h
  exact absurd hc (by decide)

/-- A directive is written as an at sign and its key. -/
theorem toList_text_directive (name : String) :
    (Target.directive name).text.toList = '@' :: (formatKey name).toList := by
  simp [Target.text]

/-- A property of a directive is written behind the directive and a point. -/
theorem toList_text_entry (owner key : String) : (Target.entry owner key).text.toList =
    '@' :: ((formatKey owner).toList ++ '.' :: (formatKey key).toList) := by
  simp [Target.text]

/-- A target ends before a space that no quotes enclose. -/
theorem Target.text_append_inj {a b : Target} {u v : List Char}
    (h : a.text.toList ++ ' ' :: u = b.text.toList ++ ' ' :: v) : a = b ∧ u = v := by
  have hspace : ∀ {rest}, StartsOutside isBareKeyChar (' ' :: rest) :=
    startsOutside_cons.mpr rfl
  have hpoint : ∀ {rest}, StartsOutside isBareKeyChar ('.' :: rest) :=
    startsOutside_cons.mpr rfl
  cases a with
  | property key =>
    cases b with
    | property other =>
      obtain ⟨rfl, hrest⟩ := formatKey_append_inj hspace hspace h
      exact ⟨rfl, (List.cons.inj hrest).2⟩
    | directive name =>
      rw [toList_text_directive] at h
      exact absurd h formatKey_append_ne_at
    | entry owner key =>
      rw [toList_text_entry] at h
      exact absurd h formatKey_append_ne_at
  | directive name =>
    rw [toList_text_directive, List.cons_append] at h
    cases b with
    | property other => exact absurd h.symm formatKey_append_ne_at
    | directive other =>
      rw [toList_text_directive] at h
      obtain ⟨rfl, hrest⟩ := formatKey_append_inj hspace hspace (List.cons.inj h).2
      exact ⟨rfl, (List.cons.inj hrest).2⟩
    | entry owner key =>
      rw [toList_text_entry, List.cons_append, List.append_assoc] at h
      obtain ⟨-, hrest⟩ := formatKey_append_inj hspace hpoint (List.cons.inj h).2
      exact absurd (List.cons.inj hrest).1 (by decide)
  | entry owner key =>
    rw [toList_text_entry, List.cons_append, List.append_assoc] at h
    cases b with
    | property other => exact absurd h.symm formatKey_append_ne_at
    | directive name =>
      rw [toList_text_directive] at h
      obtain ⟨-, hrest⟩ := formatKey_append_inj hpoint hspace (List.cons.inj h).2
      exact absurd (List.cons.inj hrest).1 (by decide)
    | entry other key' =>
      simp only [toList_text_entry, List.cons_append, List.append_assoc] at h
      obtain ⟨rfl, hafter⟩ := formatKey_append_inj hpoint hpoint (List.cons.inj h).2
      obtain ⟨rfl, hrest⟩ := formatKey_append_inj hspace hspace (List.cons.inj hafter).2
      exact ⟨rfl, (List.cons.inj hrest).2⟩

end Targets

/-- Whether a character may stand in an indentation. -/
def isIndentChar (c : Char) : Bool :=
  c == ' ' || c == '\t'

/-- Whether a text goes on after a body: with the end of the text, or with an indented closing
brace. -/
def FollowsBody (text : List Char) : Prop :=
  ∃ blanks rest, text = blanks ++ rest ∧ (∀ c ∈ blanks, isIndentChar c) ∧
    (rest = [] ∨ ∃ more, rest = '\x7d' :: more)

section Bodies

variable {indent : String}

/-- Spaces and tabs are characters of an indentation. -/
theorem isIndentChar_of_blanks (h : ∀ c ∈ indent.toList, c = ' ' ∨ c = '\t') :
    ∀ c ∈ indent.toList, isIndentChar c := fun c hc => by
  simpa [isIndentChar] using h c hc

/-- The indentation of a line has no other characters than one level of it. -/
theorem isIndentChar_of_mem_pad (hindent : ∀ c ∈ indent.toList, isIndentChar c) (depth : Nat) :
    ∀ c ∈ pad indent depth, isIndentChar c := by
  intro c hc
  simp only [pad, String.toList_join, List.mem_flatMap] at hc
  obtain ⟨level, hlevel, hc⟩ := hc
  exact hindent c (List.eq_of_mem_replicate hlevel ▸ hc)

/-- The end of a text may follow a body. -/
theorem followsBody_nil : FollowsBody [] :=
  ⟨[], [], rfl, by simp, Or.inl rfl⟩

/-- The line that closes a block may follow its body. -/
theorem followsBody_closing (hindent : ∀ c ∈ indent.toList, isIndentChar c) (depth : Nat)
    (rest : List Char) : FollowsBody (pad indent depth ++ (closing ++ rest)) :=
  ⟨_, _, rfl, isIndentChar_of_mem_pad hindent depth, Or.inr ⟨'\n' :: rest, rfl⟩⟩

/-- A target starts with no character of an indentation and with no closing brace. -/
theorem Target.text_eq_cons (target : Target) : ∃ c rest, target.text.toList = c :: rest ∧
    isIndentChar c = false ∧ c ≠ '\x7d' := by
  cases target with
  | property key =>
    obtain ⟨c, rest, hlist, hc⟩ := formatKey_eq_cons key
    have hindent : ¬isIndentChar c := fun h => by
      rcases Bool.or_eq_true_iff.mp h with h | h <;> rw [beq_iff_eq.mp h] at hc <;>
        exact absurd hc (by decide)
    exact ⟨c, rest, hlist, Bool.eq_false_iff.mpr hindent, fun h => absurd (h ▸ hc) (by decide)⟩
  | directive name => exact ⟨_, _, toList_text_directive name, rfl, by decide⟩
  | entry owner key => exact ⟨_, _, toList_text_entry owner key, rfl, by decide⟩

/-- A statement does not follow a body, it belongs to it. -/
theorem not_followsBody_statement (hindent : ∀ c ∈ indent.toList, isIndentChar c) {depth : Nat}
    {target : Target} {rest : List Char} :
    ¬FollowsBody (pad indent depth ++ (target.text.toList ++ rest)) := by
  rintro ⟨blanks, after, htext, hblanks, hafter⟩
  obtain ⟨c, tail, hlist, hc, hbrace⟩ := target.text_eq_cons
  have hstart : StartsOutside isIndentChar after := by
    rcases hafter with rfl | ⟨more, rfl⟩
    · exact startsOutside_nil
    · exact startsOutside_cons.mpr rfl
  rw [hlist] at htext
  obtain ⟨-, hrest⟩ := word_append_inj (isIndentChar_of_mem_pad hindent depth) hblanks
    (startsOutside_cons.mpr hc) hstart htext
  rcases hafter with rfl | ⟨more, rfl⟩
  · cases hrest
  · exact hbrace (List.cons.inj hrest).1

/-- What a statement says is separated from its target by a space. -/
theorem contentChars_eq_cons (depth : Nat) (content : Content) :
    ∃ rest, contentChars indent depth content = ' ' :: rest := by
  cases content <;> exact ⟨_, rfl⟩

/-- A target can be read back when something that is said about it follows. -/
theorem statement_append_inj {depth : Nat} {a b : Target} {c d : Content} {u v : List Char}
    (h : a.text.toList ++ (contentChars indent depth c ++ u) =
      b.text.toList ++ (contentChars indent depth d ++ v)) :
    a = b ∧ contentChars indent depth c ++ u = contentChars indent depth d ++ v := by
  obtain ⟨rest, hrest⟩ : ∃ rest, contentChars indent depth c = ' ' :: rest :=
    contentChars_eq_cons depth c
  obtain ⟨rest', hrest'⟩ : ∃ rest, contentChars indent depth d = ' ' :: rest :=
    contentChars_eq_cons depth d
  rw [hrest, hrest', List.cons_append, List.cons_append] at h ⊢
  obtain ⟨rfl, hafter⟩ := Target.text_append_inj h
  exact ⟨rfl, congrArg _ hafter⟩

/-- What gives a value opens no block. -/
theorem equals_append_ne_opening {u v : List Char} : equals ++ u ≠ opening ++ v := by
  simp [equals, opening]

mutual

/-- What a statement says can be read back without looking at what follows. -/
theorem contentChars_append_inj (hindent : ∀ c ∈ indent.toList, isIndentChar c) :
    ∀ (c d : Content), c.IsReadable → d.IsReadable → ∀ (depth : Nat) (u v : List Char),
      contentChars indent depth c ++ u = contentChars indent depth d ++ v → c = d ∧ u = v
  | .inline a, .inline b, ha, hb, _, _, _, h => by
    simp only [contentChars, List.append_assoc] at h
    obtain ⟨rfl, hrest⟩ := Inline.text_append_inj ha hb (List.append_cancel_left h)
    exact ⟨rfl, hrest⟩
  | .inline a, .extended prototype body, ha, hb, _, _, _, h => by
    simp only [contentChars, List.append_assoc] at h
    exact absurd (List.append_cancel_left h) (Inline.text_append_ne ha hb.1)
  | .extended prototype body, .inline b, ha, hb, _, _, _, h => by
    simp only [contentChars, List.append_assoc] at h
    exact absurd (List.append_cancel_left h).symm (Inline.text_append_ne hb ha.1)
  | .extended prototype body, .extended prototype' body', ha, hb, depth, u, v, h => by
    simp only [contentChars, List.append_assoc] at h
    obtain ⟨hname, hrest⟩ := word_append_inj ha.1.isNameChar hb.1.isNameChar
      (startsOutside_cons.mpr rfl) (startsOutside_cons.mpr rfl) (List.append_cancel_left h)
    have hbody := List.append_cancel_left (show opening ++ _ = opening ++ _ from hrest)
    obtain ⟨rfl, hafter⟩ := bodyChars_append_inj hindent body body' ha.2 hb.2 (depth + 1) _ _
      (followsBody_closing hindent depth u) (followsBody_closing hindent depth v) hbody
    rw [String.toList_inj.mp hname]
    exact ⟨rfl, List.append_cancel_left (List.append_cancel_left hafter)⟩
  | .block body, .block body', ha, hb, depth, u, v, h => by
    simp only [contentChars, List.append_assoc] at h
    obtain ⟨rfl, hafter⟩ := bodyChars_append_inj hindent body body' ha hb (depth + 1) _ _
      (followsBody_closing hindent depth u) (followsBody_closing hindent depth v)
      (List.append_cancel_left h)
    exact ⟨rfl, List.append_cancel_left (List.append_cancel_left hafter)⟩
  | .inline _, .block _, _, _, _, _, _, h | .extended _ _, .block _, _, _, _, _, _, h => by
    simp only [contentChars, List.append_assoc] at h
    exact absurd h equals_append_ne_opening
  | .block _, .inline _, _, _, _, _, _, h | .block _, .extended _ _, _, _, _, _, _, h => by
    simp only [contentChars, List.append_assoc] at h
    exact absurd h.symm equals_append_ne_opening

/-- A body can be read back when something that follows bodies follows it. -/
theorem bodyChars_append_inj (hindent : ∀ c ∈ indent.toList, isIndentChar c) :
    ∀ (a b : List (Target × Content)), BodyIsReadable a → BodyIsReadable b →
      ∀ (depth : Nat) (u v : List Char), FollowsBody u → FollowsBody v →
        bodyChars indent depth a ++ u = bodyChars indent depth b ++ v → a = b ∧ u = v
  | [], [], _, _, _, _, _, _, _, h => ⟨rfl, h⟩
  | [], _ :: _, _, _, _, u, _, hu, _, h => by
    simp only [bodyChars, List.append_assoc, List.nil_append] at h
    subst u
    exact absurd hu (not_followsBody_statement hindent)
  | _ :: _, [], _, _, _, _, v, _, hv, h => by
    simp only [bodyChars, List.append_assoc, List.nil_append] at h
    subst v
    exact absurd hv (not_followsBody_statement hindent)
  | (target, content) :: rest, (target', content') :: rest', ha, hb, depth, u, v, hu, hv, h => by
    simp only [bodyChars, List.append_assoc] at h
    obtain ⟨rfl, hsays⟩ := statement_append_inj (List.append_cancel_left h)
    obtain ⟨rfl, hrest⟩ := contentChars_append_inj hindent content content' ha.1 hb.1 depth _ _
      hsays
    obtain ⟨rfl, rfl⟩ := bodyChars_append_inj hindent rest rest' ha.2 hb.2 depth u v hu hv hrest
    exact ⟨rfl, rfl⟩

end

end Bodies

end ComponentAtlas.SourceText

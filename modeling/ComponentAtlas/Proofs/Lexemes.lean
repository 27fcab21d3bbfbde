import ComponentAtlas.SourceText.Lexeme

/-!
# Self-delimiting lexemes

Keys and string literals are told apart from whatever follows them: each is read back from the front
of a text by a reader that accepts nothing else. Between quotes the closing quote is the first one
that no backslash guards; a bare key ends before the first character that no bare key holds.
-/

namespace ComponentAtlas.SourceText

/-- Whether a text does not start with a character of a class. -/
def StartsOutside (class? : Char → Bool) (text : List Char) : Prop :=
  ∀ c ∈ text.head?, class? c = false

section Words

variable {class? : Char → Bool}

/-- The empty text starts with no character at all. -/
@[simp] theorem startsOutside_nil : StartsOutside class? [] := by
  simp [StartsOutside]

/-- A text starts outside of a class when its first character is not in it. -/
@[simp] theorem startsOutside_cons {c : Char} {rest : List Char} :
    StartsOutside class? (c :: rest) ↔ class? c = false := by
  simp [StartsOutside]

/-- What is left behind a word over a class starts outside of the class. -/
theorem startsOutside_dropWhile {text : List Char} :
    StartsOutside class? (text.dropWhile class?) := by
  intro c hc
  have hnot := List.head?_dropWhile_not class? text
  rw [Option.mem_def.mp hc] at hnot
  exact hnot

/-- A word over a class of characters goes on for as long as it can. -/
theorem takeWhile_append_of_startsOutside {word rest : List Char} (hword : ∀ c ∈ word, class? c)
    (hrest : StartsOutside class? rest) :
    (word ++ rest).takeWhile class? = word ∧ (word ++ rest).dropWhile class? = rest := by
  have hstart : rest.takeWhile class? = [] ∧ rest.dropWhile class? = rest := by
    cases rest with
    | nil => exact ⟨rfl, rfl⟩
    | cons c rest =>
      have hc : ¬class? c = true := Bool.not_eq_true _ ▸ startsOutside_cons.mp hrest
      exact ⟨List.takeWhile_cons_of_neg hc, List.dropWhile_cons_of_neg hc⟩
  rw [List.takeWhile_append_of_pos hword, List.dropWhile_append_of_pos hword, hstart.1, hstart.2,
    List.append_nil]
  exact ⟨rfl, rfl⟩

/-- A word over a class of characters ends before the first character outside of the class. -/
theorem word_append_inj {s t u v : List Char} (hs : ∀ c ∈ s, class? c) (ht : ∀ c ∈ t, class? c)
    (hu : StartsOutside class? u) (hv : StartsOutside class? v) (h : s ++ u = t ++ v) :
    s = t ∧ u = v := by
  obtain ⟨hword, hrest⟩ := takeWhile_append_of_startsOutside hs hu
  obtain ⟨hword', hrest'⟩ := takeWhile_append_of_startsOutside ht hv
  rw [h] at hword hrest
  exact ⟨hword.symm.trans hword', hrest.symm.trans hrest'⟩

/-- Words are told apart again where a character that none of them holds ends each of them. -/
theorem splitOn_flatMap_append {last : Char} {words : List (List Char)}
    (hwords : ∀ word ∈ words, last ∉ word) :
    (words.flatMap (· ++ [last])).splitOn last = words ++ [[]] := by
  induction words with
  | nil => rfl
  | cons word rest ih =>
    obtain ⟨hword, hrest⟩ := List.forall_mem_cons.mp hwords
    rw [List.flatMap_cons, List.append_assoc, List.singleton_append, List.splitOn_append_cons_self,
      List.splitOn_eq_singleton hword, ih hrest]
    rfl

end Words

/-- An enclosed text is written as its guarded characters between two quotes. -/
theorem toList_enclose (quote : Char) (text : String) :
    (enclose quote text).toList = quote :: (text.toList.flatMap (guarded quote) ++ [quote]) := by
  simp [enclose]

/-- What stands before the closing quote, and what follows it. A backslash stands before a quote or
a backslash, and nowhere else. -/
def readGuarded? (quote : Char) : List Char → Option (List Char × List Char)
  | [] => none
  | c :: rest =>
    if c = quote then some ([], rest)
    else if c = '\\' then
      match rest with
      | [] => none
      | d :: rest =>
        if d = '\\' ∨ d = quote then (readGuarded? quote rest).map (Prod.map (d :: ·) id) else none
    else (readGuarded? quote rest).map (Prod.map (c :: ·) id)

/-- A text between the given quotes, and what follows it. -/
def readEnclosed? (quote : Char) : List Char → Option (String × List Char)
  | [] => none
  | c :: rest =>
    if c = quote then (readGuarded? quote rest).map (Prod.map String.ofList id) else none

section Quotes

variable {quote : Char}

/-- The closing quote ends the text. -/
theorem readGuarded?_quote (rest : List Char) :
    readGuarded? quote (quote :: rest) = some ([], rest) := by
  rw [readGuarded?.eq_def]
  exact if_pos rfl

/-- A guarded character is read as the character. -/
theorem readGuarded?_guarded (hquote : quote ≠ '\\') (c : Char) (rest : List Char) :
    readGuarded? quote (guarded quote c ++ rest) =
      (readGuarded? quote rest).map (Prod.map (c :: ·) id) := by
  rw [guarded]
  split
  · rename_i hc
    rw [List.cons_append, List.singleton_append, readGuarded?.eq_def]
    simp only [hquote.symm, if_false, if_true, hc]
  · rename_i hc
    obtain ⟨hslash, hne⟩ := not_or.mp hc
    rw [List.singleton_append, readGuarded?.eq_def]
    simp only [hslash, hne, if_false]

/-- The quote that closes a text is the first one that no backslash guards. -/
theorem readGuarded?_flatMap (hquote : quote ≠ '\\') (text rest : List Char) :
    readGuarded? quote (text.flatMap (guarded quote) ++ quote :: rest) = some (text, rest) := by
  induction text with
  | nil => exact readGuarded?_quote rest
  | cons c text ih =>
    rw [List.flatMap_cons, List.append_assoc, readGuarded?_guarded hquote, ih]
    rfl

/-- Nothing is read but what has been written. -/
theorem eq_of_readGuarded? {source text rest : List Char}
    (h : readGuarded? quote source = some (text, rest)) :
    source = text.flatMap (guarded quote) ++ quote :: rest := by
  -- One case for the closing quote, one for a guarded character and one for any other; the rest of
  -- the cases read nothing.
  fun_induction readGuarded? quote source generalizing text rest with
  | case1 | case3 | case5 => cases h
  | case2 =>
    cases h
    rfl
  | case4 d _ hd _ ih =>
    obtain ⟨⟨more, others⟩, hread, heq⟩ := Option.map_eq_some_iff.mp h
    cases heq
    rw [List.flatMap_cons, guarded, if_pos hd, ih hread]
    rfl
  | case6 c after hne hslash ih =>
    obtain ⟨⟨more, others⟩, hread, heq⟩ := Option.map_eq_some_iff.mp h
    cases heq
    rw [List.flatMap_cons, guarded, if_neg (not_or.mpr ⟨hslash, hne⟩), ih hread]
    rfl

/-- A text between quotes is read back, and nothing else is read. -/
theorem readEnclosed?_eq_some (hquote : quote ≠ '\\') {source rest : List Char} {text : String} :
    readEnclosed? quote source = some (text, rest) ↔
      source = (enclose quote text).toList ++ rest := by
  rw [toList_enclose, List.cons_append, List.append_assoc, List.singleton_append]
  constructor
  · intro h
    cases source with
    | nil => cases h
    | cons c source =>
      rw [readEnclosed?] at h
      split at h
      · rename_i hc
        obtain ⟨⟨chars, others⟩, hread, heq⟩ := Option.map_eq_some_iff.mp h
        cases heq
        rw [hc, eq_of_readGuarded? hread, String.toList_ofList]
        rfl
      · cases h
  · rintro rfl
    rw [readEnclosed?, if_pos rfl, readGuarded?_flatMap hquote]
    exact congrArg (fun chars => some (chars, rest)) String.ofList_toList

/-- A text between quotes can be read back without looking at what follows. -/
theorem enclose_append_inj (hquote : quote ≠ '\\') {s t : String} {u v : List Char}
    (h : (enclose quote s).toList ++ u = (enclose quote t).toList ++ v) : s = t ∧ u = v := by
  have hread : readEnclosed? quote ((enclose quote s).toList ++ u) = some (s, u) :=
    (readEnclosed?_eq_some hquote).mpr rfl
  rw [(readEnclosed?_eq_some hquote).mpr h] at hread
  cases hread
  exact ⟨rfl, rfl⟩

end Quotes

/-- A string literal, and what follows it. -/
def readString? (source : List Char) : Option (String × List Char) :=
  readEnclosed? '\'' source

/-- A string literal is read back, and nothing else is read. -/
theorem readString?_eq_some {source rest : List Char} {text : String} :
    readString? source = some (text, rest) ↔ source = (quoteString text).toList ++ rest :=
  readEnclosed?_eq_some (by decide)

/-- A string literal can be read back without looking at what follows. -/
theorem quoteString_append_inj {s t : String} {u v : List Char}
    (h : (quoteString s).toList ++ u = (quoteString t).toList ++ v) : s = t ∧ u = v :=
  enclose_append_inj (by decide) h

/-- A bare key is a word of bare characters that is not empty. -/
theorem isBareKey_iff {key : String} :
    isBareKey key ↔ key.toList ≠ [] ∧ ∀ c ∈ key.toList, isBareKeyChar c := by
  simp [isBareKey]

/-- A written key is a bare word or starts with a quote. -/
theorem formatKey_cases (key : String) :
    (formatKey key = key ∧ key.toList ≠ [] ∧ ∀ c ∈ key.toList, isBareKeyChar c) ∨
      formatKey key = enclose '"' key := by
  unfold formatKey
  split <;> rename_i hbare
  · exact Or.inl ⟨rfl, isBareKey_iff.mp hbare⟩
  · exact Or.inr rfl

/-- A written key starts with a bare character or a quote. -/
theorem formatKey_eq_cons (key : String) : ∃ c rest, (formatKey key).toList = c :: rest ∧
    (isBareKeyChar c ∨ c = '"') := by
  rcases formatKey_cases key with ⟨hkey, hne, hbare⟩ | hkey <;> rw [hkey]
  · obtain ⟨c, rest, hlist⟩ := List.exists_cons_of_ne_nil hne
    exact ⟨c, rest, hlist, Or.inl (hbare c (hlist ▸ List.mem_cons_self))⟩
  · exact ⟨'"', _, toList_enclose _ _, Or.inr rfl⟩

/-- A property key, and what follows it. A key without quotes goes on for as long as it can. -/
def readKey? (source : List Char) : Option (String × List Char) :=
  if source.head? = some '"' then
    (readEnclosed? '"' source).filter fun read => !isBareKey read.1
  else
    (some (String.ofList (source.takeWhile isBareKeyChar), source.dropWhile isBareKeyChar)).filter
      fun read => isBareKey read.1

/-- What starts with a quote is read as the enclosed key that it starts with, which is not a bare
one. -/
theorem readKey?_of_quoted {source rest : List Char} (hquote : source.head? = some '"')
    {key : String} : readKey? source = some (key, rest) ↔
      source = (enclose '"' key).toList ++ rest ∧ ¬isBareKey key := by
  rw [readKey?, if_pos hquote, Option.filter_eq_some_iff, readEnclosed?_eq_some (by decide),
    Bool.not_eq_true', Bool.not_eq_true]

/-- What does not start with a quote is read as the bare key that it starts with, as long as it can
be. -/
theorem readKey?_of_bare {source rest : List Char} (hquote : source.head? ≠ some '"')
    {key : String} : readKey? source = some (key, rest) ↔
      (source = key.toList ++ rest ∧ StartsOutside isBareKeyChar rest) ∧ isBareKey key := by
  rw [readKey?, if_neg hquote, Option.filter_eq_some_iff]
  refine and_congr_left fun hbare => ?_
  constructor
  · intro h
    cases h
    rw [String.toList_ofList, List.takeWhile_append_dropWhile]
    exact ⟨rfl, startsOutside_dropWhile⟩
  · rintro ⟨rfl, hrest⟩
    obtain ⟨htake, hdrop⟩ := takeWhile_append_of_startsOutside (isBareKey_iff.mp hbare).2 hrest
    rw [htake, hdrop, String.ofList_toList]

/-- A written key is read back where no character of a bare key follows a bare one, and nothing else
is read. -/
theorem readKey?_eq_some {source rest : List Char} {key : String} :
    readKey? source = some (key, rest) ↔
      source = (formatKey key).toList ++ rest ∧
        (isBareKey key → StartsOutside isBareKeyChar rest) := by
  by_cases hbare : isBareKey key
  · have hhead : source = key.toList ++ rest → source.head? ≠ some '"' := by
      obtain ⟨hne, hchars⟩ := isBareKey_iff.mp hbare
      obtain ⟨c, others, hkey⟩ := List.exists_cons_of_ne_nil hne
      rintro rfl hquote
      rw [hkey] at hquote hchars
      cases hquote
      exact absurd (hchars '"' List.mem_cons_self) (by decide)
    rw [formatKey, if_pos hbare]
    by_cases hquote : source.head? = some '"'
    · rw [readKey?_of_quoted hquote]
      exact iff_of_false (fun h => h.2 hbare) fun h => hhead h.1 hquote
    · rw [readKey?_of_bare hquote]
      exact ⟨fun h => ⟨h.1.1, fun _ => h.1.2⟩, fun h => ⟨⟨h.1, h.2 hbare⟩, hbare⟩⟩
  · rw [formatKey, if_neg hbare]
    by_cases hquote : source.head? = some '"'
    · rw [readKey?_of_quoted hquote]
      exact and_congr_right fun _ => iff_of_true hbare fun h => absurd h hbare
    · rw [readKey?_of_bare hquote]
      refine iff_of_false (fun h => hbare h.2) fun h => hquote ?_
      rw [h.1, toList_enclose]
      rfl

/-- A written key can be read back when no bare character follows it. -/
theorem formatKey_append_inj {a b : String} {u v : List Char}
    (hu : StartsOutside isBareKeyChar u) (hv : StartsOutside isBareKeyChar v)
    (h : (formatKey a).toList ++ u = (formatKey b).toList ++ v) : a = b ∧ u = v := by
  have hread : readKey? ((formatKey a).toList ++ u) = some (a, u) :=
    readKey?_eq_some.mpr ⟨rfl, fun _ => hu⟩
  rw [readKey?_eq_some.mpr ⟨h, fun _ => hv⟩] at hread
  cases hread
  exact ⟨rfl, rfl⟩

section Passes

/-- The characters with a backslash before each occurrence of one of them. -/
def guardEach (guardedChar : Char) (text : List Char) : List Char :=
  text.flatMap fun c => if c = guardedChar then ['\\', c] else [c]

/-- A text is guarded in two passes, backslashes first: the backslashes that the second pass puts
before quotes are not guarded themselves. -/
theorem guardEach_guardEach {quote : Char} (hquote : quote ≠ '\\') (text : List Char) :
    guardEach quote (guardEach '\\' text) = text.flatMap (guarded quote) := by
  rw [guardEach, guardEach, List.flatMap_assoc]
  refine congrArg (List.flatMap · text) (funext fun c => ?_)
  by_cases hslash : c = '\\'
  · subst hslash
    simp [guarded, hquote.symm]
  · simp [guarded, hslash]

/-- In the other order the second pass would take the guard away from a quote. -/
example : guardEach '\\' (guardEach '"' ['"']) = ['\\', '\\', '"'] := by decide

/-- A key that is no plain identifier is written in two passes. -/
theorem formatKey_of_not_bare {key : String} (hbare : ¬isBareKey key) :
    formatKey key = String.ofList ('"' :: guardEach '"' (guardEach '\\' key.toList) ++ ['"']) := by
  rw [formatKey, if_neg hbare, enclose, guardEach_guardEach (by decide)]

end Passes

/-- Whether a text goes on as it does behind a key: with a space or a point. -/
def FollowsKey (text : String) : Prop :=
  text.toList.head? = some ' ' ∨ text.toList.head? = some '.'

instance : DecidablePred FollowsKey := fun _ => inferInstanceAs (Decidable (_ ∨ _))

/-- What goes on as it does behind a key does not go on with the key. -/
theorem FollowsKey.startsOutside {text : String} (h : FollowsKey text) :
    StartsOutside isBareKeyChar text.toList := by
  intro c hc
  rcases h with hspace | hpoint
  · cases hspace.symm.trans hc
    rfl
  · cases hpoint.symm.trans hc
    rfl

/-- String literals and keys are self-delimiting: two string literals that start the same text are
the same, and so is what follows them, and so it is with keys before a space or a point. Both can be
read back from the front of a text, and what follows is left as it is. -/
theorem lexemes_self_delimiting :
    (∀ s t u v : String, quoteString s ++ u = quoteString t ++ v → s = t ∧ u = v) ∧
    (∀ a b u v : String, FollowsKey u → FollowsKey v → formatKey a ++ u = formatKey b ++ v →
      a = b ∧ u = v) ∧
    (∀ s u : String, readString? (quoteString s ++ u).toList = some (s, u.toList)) ∧
    ∀ a u : String, FollowsKey u → readKey? (formatKey a ++ u).toList = some (a, u.toList) := by
  refine ⟨fun s t u v h => ?_, fun a b u v hu hv h => ?_, fun s u => ?_, fun a u hu => ?_⟩
  · have hchars := congrArg String.toList h
    rw [String.toList_append, String.toList_append] at hchars
    obtain ⟨htext, hrest⟩ := quoteString_append_inj hchars
    exact ⟨htext, String.toList_inj.mp hrest⟩
  · have hchars := congrArg String.toList h
    rw [String.toList_append, String.toList_append] at hchars
    obtain ⟨hkey, hrest⟩ := formatKey_append_inj hu.startsOutside hv.startsOutside hchars
    exact ⟨hkey, String.toList_inj.mp hrest⟩
  · rw [String.toList_append]
    exact readString?_eq_some.mpr rfl
  · rw [String.toList_append]
    exact readKey?_eq_some.mpr ⟨rfl, fun _ => hu.startsOutside⟩

/-- Quotes and backslashes in a text, and what follows it, do not keep it from being read back. -/
theorem lexemes_self_delimiting_of_quotes :
    readString? (quoteString "it's \\" ++ "' \\'").toList = some ("it's \\", "' \\'".toList) ∧
    FollowsKey ".b = \"c\"" ∧
    readKey? (formatKey "say \"hi\\" ++ ".b = \"c\"").toList =
      some ("say \"hi\\", ".b = \"c\"".toList) := by
  obtain ⟨-, -, hstring, hkey⟩ := lexemes_self_delimiting
  have hfollows : FollowsKey ".b = \"c\"" := by decide
  exact ⟨hstring _ _, hfollows, hkey _ _ hfollows⟩

end ComponentAtlas.SourceText

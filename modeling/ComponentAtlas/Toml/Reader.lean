import ComponentAtlas.Toml.Lexeme
import ComponentAtlas.Toml.Table

/-!
# Reading TOML

A text is a list of statements, each on lines of its own: headers, which say where the entries behind
them belong, and entries.
-/

namespace ComponentAtlas.Toml

/-- Values and keys that nest this deep are refused. -/
def depthLimit : Nat := 80

/-- The characters of keys without quotes. -/
def isKeyChar (c : Char) : Bool :=
  c.isAlphanum || c = '_' || c = '-'

/-- One segment of a key. -/
def segment? (rest : List Char) : Option (String × List Char) :=
  match rest with
  | '"' :: rest => (basicString? rest).map fun (chars, rest) => (String.ofList chars, rest)
  | '\'' :: rest => (literalString? rest).map fun (chars, rest) => (String.ofList chars, rest)
  | _ =>
    let name := rest.takeWhile isKeyChar
    if name.isEmpty then none else some (String.ofList name, rest.dropWhile isKeyChar)

/-- The segments of a key, with the blanks around each. -/
def segments? : (fuel : Nat) → List Char → Option (List String × List Char)
  | 0, _ => none
  | fuel + 1, rest => do
    let (name, rest) ← segment? (skipBlanks rest)
    match skipBlanks rest with
    | '.' :: rest =>
      let (names, rest) ← segments? fuel rest
      return (name :: names, rest)
    | rest => return ([name], rest)

/-- A key. -/
def key? (rest : List Char) : Option (List String × List Char) :=
  segments? depthLimit rest |>.filter fun (names, _) => names.length < depthLimit

mutual

/-- A value within the given number of levels. -/
def value? : (fuel : Nat) → (levels : Nat) → List Char → Option (Document × List Char)
  | 0, _, _ => none
  | fuel + 1, levels, rest =>
    match rest with
    | '"' :: _ | '\'' :: _ =>
      (string? rest).map fun (chars, rest) => (.text (String.ofList chars), rest)
    | '[' :: rest =>
      match levels with
      | 0 => none
      | levels + 1 =>
        (elements? fuel levels rest).map fun (items, rest) => (.list items, rest)
    | '\x7b' :: rest =>
      match levels with
      | 0 => none
      | levels + 1 =>
        match skipBlanks rest with
        | '\x7d' :: rest => some (.table [], rest)
        | rest =>
          (pairs? fuel levels [] rest).map fun (entries, rest) =>
            (.table (entryDocuments entries), rest)
    | _ => atom? rest

/-- The elements of an array behind its bracket or a comma, and its end. -/
def elements? : (fuel : Nat) → (levels : Nat) → List Char → Option (List Document × List Char)
  | 0, _, _ => none
  | fuel + 1, levels, rest =>
    match skipLines (rest.length + 1) rest with
    | ']' :: rest => some ([], rest)
    | rest => do
      let (item, rest) ← value? fuel levels rest
      match skipLines (rest.length + 1) rest with
      | ',' :: rest =>
        let (items, rest) ← elements? fuel levels rest
        return (item :: items, rest)
      | ']' :: rest => return ([item], rest)
      | _ => none

/-- The entries of a table between braces behind its brace or a comma, and its end. -/
def pairs? : (fuel : Nat) → (levels : Nat) → Entries → List Char → Option (Entries × List Char)
  | 0, _, _, _ => none
  | fuel + 1, levels, entries, rest => do
    let (path, rest) ← key? rest
    match rest with
    | '=' :: rest =>
      let (content, rest) ← value? fuel levels (skipBlanks rest)
      let entries ← assign? path content .defined entries
      match skipBlanks rest with
      | ',' :: rest => pairs? fuel levels entries rest
      | '\x7d' :: rest => return (entries, rest)
      | _ => none
    | _ => none

end

/-- A text that has been read in part: the entries so far, and the header that is in force. -/
structure OpenText where
  entries : Entries := []
  header : List String := []

namespace OpenText

/-- Changes the table that is a key's parent, the header apart. -/
def define? (state : OpenText) (path : List String)
    (change : String → TableForm → Entries → Option Entries) : Option OpenText :=
  match path.reverse with
  | [] => none
  | key :: parents =>
    (descend? .implied (change key) parents.reverse .defined state.entries).map fun entries =>
      { entries, header := path }

/-- Reads a statement: a header, a header of an array, or an entry. -/
def statement? (state : OpenText) (rest : List Char) : Option (OpenText × List Char) :=
  match rest with
  | '[' :: '[' :: rest => do
    let (path, rest) ← key? rest
    match rest with
    | ']' :: ']' :: rest => return (← state.define? path addElement?, ← finishLine? rest)
    | _ => none
  | '[' :: rest => do
    let (path, rest) ← key? rest
    match rest with
    | ']' :: rest => return (← state.define? path defineTable?, ← finishLine? rest)
    | _ => none
  | _ => do
    let (path, rest) ← key? rest
    match rest with
    | '=' :: rest =>
      let rest := skipBlanks rest
      let (content, rest) ← value? (2 * rest.length + 4) (depthLimit - 1) rest
      let entries ← descend? .implied (assign? path content) state.header .defined state.entries
      return ({ state with entries }, ← finishLine? rest)
    | _ => none

/-- Reads statements to the end of the text. -/
def statements? : (fuel : Nat) → OpenText → List Char → Option Entries
  | 0, _, _ => none
  | fuel + 1, state, rest =>
    match skipLines (rest.length + 1) rest with
    | [] => some state.entries
    | '#' :: comment => if (comment.dropWhile isText).isEmpty then some state.entries else none
    | rest => do
      let (state, rest) ← state.statement? rest
      statements? fuel state rest

end OpenText

/-- The document of a text. -/
def read? (text : String) : Option Document :=
  let chars := text.toList
  (OpenText.statements? (chars.length + 1) {} chars).map fun entries =>
    .table (entryDocuments entries)

end ComponentAtlas.Toml

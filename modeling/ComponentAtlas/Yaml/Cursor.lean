/-!
# Positions in YAML text

A cursor is what is left of a text and the position where that starts. Line breaks come in five
spellings; the two that separate lines and paragraphs are kept as they are, the others count as line
feeds.
-/

namespace ComponentAtlas.Yaml

/-- Whether a character may stand in a text at all. -/
def isAllowed (c : Char) : Bool :=
  let code := c.toNat
  code = 9 || code = 10 || code = 13 || (0x20 ≤ code && code ≤ 0x7e) || code = 0x85 ||
    (0xa0 ≤ code && code ≤ 0xfffd) || 0x10000 ≤ code

/-- Whether a character ends a line. -/
def isBreak (c : Char) : Bool :=
  c = '\n' || c = '\r' || c = '\u0085' || c = '\u2028' || c = '\u2029'

/-- Whether a character is a space or a tab. -/
def isBlank (c : Char) : Bool :=
  c = ' ' || c = '\t'

/-- The characters of anchors, handles and directive names. -/
def isNameChar (c : Char) : Bool :=
  c.isAlphanum || c = '_' || c = '-'

/-- A line break as it counts in a scalar. -/
def breakChar (c : Char) : Char :=
  if c = '\u2028' ∨ c = '\u2029' then c else '\n'

/-- A position: how many bytes and lines come before it, and its column. -/
structure Position where
  index : Nat := 0
  line : Nat := 0
  column : Nat := 0
  deriving DecidableEq, Inhabited

/-- The position behind a character that ends no line. -/
def Position.after (position : Position) (c : Char) : Position :=
  { position with index := position.index + c.utf8Size, column := position.column + 1 }

/-- The start of the next line, behind a break of so many bytes. -/
def Position.nextLine (position : Position) (bytes : Nat) : Position :=
  { index := position.index + bytes, line := position.line + 1, column := 0 }

/-- A place in a text. -/
structure Cursor where
  position : Position := {}
  rest : List Char
  deriving Inhabited

namespace Cursor

/-- The column of the cursor. -/
def column (cursor : Cursor) : Nat := cursor.position.column

/-- The character at the cursor. -/
def peek? (cursor : Cursor) : Option Char := cursor.rest.head?

/-- Whether a character stands at the cursor. -/
def isAt (cursor : Cursor) (c : Char) : Bool := cursor.peek? == some c

/-- Whether a blank, a break or the end of the text stands so many characters further on. -/
def endsWord (cursor : Cursor) (offset : Nat) : Bool :=
  cursor.rest[offset]?.all fun c => isBlank c || isBreak c

/-- Whether a line break or the end of the text stands at the cursor. -/
def endsLine (cursor : Cursor) : Bool :=
  cursor.peek?.all isBreak

/-- Skips a character that ends no line. -/
def skip (cursor : Cursor) : Cursor :=
  match cursor.rest with
  | [] => cursor
  | c :: rest => ⟨cursor.position.after c, rest⟩

/-- Splits off the characters at the front that satisfy a condition; line breaks do not. -/
def spanFrom (condition : Char → Bool) (position : Position) : List Char → List Char × Cursor
  | [] => ([], ⟨position, []⟩)
  | c :: rest =>
    if condition c && !isBreak c then
      let (chars, cursor) := spanFrom condition (position.after c) rest
      (c :: chars, cursor)
    else ([], ⟨position, c :: rest⟩)

/-- The characters at the front that satisfy a condition, and the cursor behind them. -/
def span (cursor : Cursor) (condition : Char → Bool) : List Char × Cursor :=
  spanFrom condition cursor.position cursor.rest

/-- Skips the characters at the front that satisfy a condition. -/
def skipWhile (cursor : Cursor) (condition : Char → Bool) : Cursor :=
  (cursor.span condition).2

/-- Skips a line break and returns what it counts as. -/
def takeBreak? (cursor : Cursor) : Option Char × Cursor :=
  match cursor.rest with
  | '\r' :: '\n' :: rest => (some '\n', ⟨cursor.position.nextLine 2, rest⟩)
  | c :: rest =>
    if isBreak c then (some (breakChar c), ⟨cursor.position.nextLine c.utf8Size, rest⟩)
    else (none, cursor)
  | [] => (none, cursor)

/-- Skips blanks, a comment and a line break. Anything else on the line is refused. -/
def finishLine? (cursor : Cursor) : Option Cursor :=
  let cursor := cursor.skipWhile isBlank
  let cursor := if cursor.isAt '#' then cursor.skipWhile fun _ => true else cursor
  if cursor.endsLine then some cursor.takeBreak?.2 else none

/-- Whether a line of three hyphens or of three dots starts here, which separates documents. -/
def atDocumentMark (cursor : Cursor) (c : Char) : Bool :=
  cursor.column = 0 && cursor.rest.take 3 == [c, c, c] && cursor.endsWord 3

/-- Whether documents are separated here. -/
def atDocumentEdge (cursor : Cursor) : Bool :=
  cursor.atDocumentMark '-' || cursor.atDocumentMark '.'

end Cursor

/-- Blanks and line breaks between two parts of a scalar. -/
structure Gap where
  /-- The blanks before the first break, the last one first. -/
  blanks : List Char := []
  /-- Whether a break has been passed, be it one that counts as nothing. -/
  broken : Bool := false
  /-- The breaks, the last one first. -/
  breaks : List Char := []
  /-- The smallest column behind a break at which a tab stands. -/
  tabColumn : Option Nat := none
  deriving Inhabited

namespace Gap

/-- Adds a blank at a given column. Behind a break blanks do not count. -/
def addBlank (gap : Gap) (c : Char) (column : Nat) : Gap :=
  if !gap.broken then { gap with blanks := c :: gap.blanks }
  else if c = '\t' then { gap with tabColumn := some (min column (gap.tabColumn.getD column)) }
  else gap

/-- Adds a break. -/
def addBreak (gap : Gap) (c : Char) : Gap :=
  { gap with broken := true, breaks := c :: gap.breaks }

/-- Reads blanks and breaks. -/
def readFrom (gap : Gap) (position : Position) : List Char → Gap × Cursor
  | [] => (gap, ⟨position, []⟩)
  | '\r' :: '\n' :: rest => readFrom (gap.addBreak '\n') (position.nextLine 2) rest
  | c :: rest =>
    if isBreak c then readFrom (gap.addBreak (breakChar c)) (position.nextLine c.utf8Size) rest
    else if isBlank c then readFrom (gap.addBlank c position.column) (position.after c) rest
    else (gap, ⟨position, c :: rest⟩)

/-- What a gap counts as. Blanks stay unless a break follows them. A single line feed becomes a space
and the first of several nothing. -/
def folded (gap : Gap) (escaped : Bool) : List Char :=
  if !gap.broken then gap.blanks.reverse
  else if escaped then gap.breaks.reverse
  else match gap.breaks.reverse with
    | ['\n'] => [' ']
    | '\n' :: others => others
    | breaks => breaks

end Gap

end ComponentAtlas.Yaml

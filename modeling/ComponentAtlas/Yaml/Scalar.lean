import ComponentAtlas.Unicode.Runs
import ComponentAtlas.Yaml.Cursor

/-!
# Scalars in YAML text

The three ways of writing a scalar: plain, between quotes, and as an indented block. In the first two
line breaks are folded; `none` means that the text is refused.
-/

namespace ComponentAtlas.Yaml

/-- A scalar that has been read. -/
structure ScannedScalar where
  text : String
  /-- Whether the scalar ended on a line before the cursor. -/
  broken : Bool := false
  cursor : Cursor

/-- The characters that separate items in the flow style. -/
def isFlowMark (c : Char) : Bool :=
  c = ',' || c = '[' || c = ']' || c = '\x7b' || c = '\x7d'

/-- Characters of a plain scalar up to a blank, a break or an end of the scalar. -/
def plainChunk? (flow : Bool) (position : Position) : List Char → Option (List Char × Cursor)
  | [] => some ([], ⟨position, []⟩)
  | c :: rest =>
    if isBlank c || isBreak c then some ([], ⟨position, c :: rest⟩)
    else if c = ':' && rest.head?.all (fun next => isBlank next || isBreak next) then
      some ([], ⟨position, c :: rest⟩)
    else if flow && c = ':' && rest.head?.any (fun next => isFlowMark next || next = '?') then none
    else if flow && isFlowMark c then some ([], ⟨position, c :: rest⟩)
    else (plainChunk? flow (position.after c) rest).map fun (chars, cursor) => (c :: chars, cursor)

/-- Reads a plain scalar; the text so far is given, its last character first. Continuation lines are
indented by more than the block around. -/
def plainFrom? (flow : Bool) (indent : Int) :
    (fuel : Nat) → (text : List Char) → (gap : Gap) → Cursor → Option ScannedScalar
  | 0, _, _, _ => none
  | fuel + 1, text, gap, cursor =>
    let ended : ScannedScalar := { text := String.ofList text.reverse, broken := gap.broken, cursor }
    if cursor.atDocumentEdge || cursor.isAt '#' then some ended
    else match plainChunk? flow cursor.position cursor.rest with
      | none => none
      | some ([], _) => some ended
      | some (chunk, behind) =>
        let text := chunk.reverse ++ (gap.folded false).reverse ++ text
        let (gap, cursor) := Gap.readFrom {} behind.position behind.rest
        if gap.tabColumn.any fun column => (column : Int) ≤ indent then none
        else if gap.blanks.isEmpty && !gap.broken || (!flow && (cursor.column : Int) ≤ indent) then
          some { text := String.ofList text.reverse, broken := gap.broken, cursor }
        else plainFrom? flow indent fuel text gap cursor

/-- A plain scalar at the cursor. -/
def plain? (flow : Bool) (indent : Int) (cursor : Cursor) : Option ScannedScalar :=
  plainFrom? flow indent (cursor.rest.length + 1) [] {} cursor

/-- The character that a letter after a backslash stands for. -/
def escaped? (c : Char) : Option Char :=
  match c with
  | '0' => some '\x00'
  | 'a' => some '\x07'
  | 'b' => some '\x08'
  | 't' | '\t' => some '\t'
  | 'n' => some '\n'
  | 'v' => some '\x0b'
  | 'f' => some '\x0c'
  | 'r' => some '\r'
  | 'e' => some '\x1b'
  | ' ' => some ' '
  | '"' => some '"'
  | '/' => some '/'
  | '\\' => some '\\'
  | 'N' => some '\u0085'
  | '_' => some '\u00a0'
  | 'L' => some '\u2028'
  | 'P' => some '\u2029'
  | _ => none

/-- The character that hexadecimal digits name. -/
def hexChar? (digits : List Char) : Option Char :=
  (digits.foldlM (fun total c => (Unicode.hexDigit? c.toLower).map (16 * total + ·)) 0).bind
    fun code =>
      if code < 0xd800 ∨ 0xdfff < code ∧ code < 0x110000 then some (Char.ofNat code) else none

/-- Moves a position behind several characters. -/
def Position.afterAll (position : Position) (chars : List Char) : Position :=
  chars.foldl Position.after position

/-- Characters between quotes up to a blank, a break or the closing quote, and whether a backslash
before a break ended them. -/
def quotedChunk? (quote : Char) (position : Position) :
    List Char → Option (List Char × Bool × Cursor)
  | [] => some ([], false, ⟨position, []⟩)
  | '\'' :: '\'' :: rest =>
    if quote = '\'' then
      (quotedChunk? quote (position.afterAll ['\'', '\'']) rest).map
        fun (chars, tail) => ('\'' :: chars, tail)
    else
      (quotedChunk? quote (position.afterAll ['\'', '\'']) rest).map
        fun (chars, tail) => ('\'' :: '\'' :: chars, tail)
  | '\\' :: tail =>
    if quote = '\'' then
      (quotedChunk? quote (position.after '\\') tail).map fun (chars, tail) => ('\\' :: chars, tail)
    else match tail with
      | [] => none
      | c :: rest =>
        if isBreak c then
          some ([], true, (Cursor.mk (position.after '\\') (c :: rest)).takeBreak?.2)
        else
          let (value?, digits) : Option Char × List Char := match c, rest with
            | 'x', a :: b :: _ => (hexChar? [a, b], [a, b])
            | 'u', a :: b :: d :: e :: _ => (hexChar? [a, b, d, e], [a, b, d, e])
            | 'U', a :: b :: d :: e :: f :: g :: h :: i :: _ =>
              (hexChar? [a, b, d, e, f, g, h, i], [a, b, d, e, f, g, h, i])
            | _, _ => (escaped? c, [])
          match value? with
          | none => none
          | some value =>
            (quotedTail? quote (position.afterAll ('\\' :: c :: digits)) digits.length rest).map
              fun (chars, tail) => (value :: chars, tail)
  | c :: rest =>
    if c = quote || isBlank c || isBreak c then some ([], false, ⟨position, c :: rest⟩)
    else
      (quotedChunk? quote (position.after c) rest).map fun (chars, tail) => (c :: chars, tail)
where
  /-- The same behind so many characters. -/
  quotedTail? (quote : Char) (position : Position) :
      Nat → List Char → Option (List Char × Bool × Cursor)
    | 0, rest => quotedChunk? quote position rest
    | count + 1, _ :: rest => quotedTail? quote position count rest
    | _ + 1, [] => none

/-- Reads a quoted scalar behind its opening quote; the text so far is given, its last character
first. -/
def quotedFrom? (quote : Char) :
    (fuel : Nat) → (text : List Char) → Cursor → Option ScannedScalar
  | 0, _, _ => none
  | fuel + 1, text, cursor =>
    if cursor.atDocumentEdge then none
    else match quotedChunk? quote cursor.position cursor.rest with
      | none => none
      | some (chunk, escaped, behind) =>
        let text := chunk.reverse ++ text
        match behind.rest with
        | [] => none
        | c :: _ =>
          if c = quote then some { text := String.ofList text.reverse, cursor := behind.skip }
          else
            let (gap, cursor) := Gap.readFrom { broken := escaped } behind.position behind.rest
            quotedFrom? quote fuel ((gap.folded escaped).reverse ++ text) cursor

/-- A quoted scalar at the cursor. -/
def quoted? (quote : Char) (cursor : Cursor) : Option ScannedScalar :=
  quotedFrom? quote (cursor.rest.length + 1) [] cursor.skip

/-- What becomes of the breaks at the end of a block. -/
inductive Chomping
  | strip
  | clip
  | keep
  deriving DecidableEq, Inhabited

/-- The sign of a chomping. -/
def chomping? (c : Char) : Option Chomping :=
  if c = '-' then some .strip else if c = '+' then some .keep else none

/-- An indentation given as a digit, which must not be zero. -/
def indentation? (c : Char) : Option Nat :=
  if c.isDigit ∧ c ≠ '0' then some (c.toNat - '0'.toNat) else none

/-- The header of a block behind its mark: a chomping sign and an indentation in either order, and
nothing else on the line but a comment. -/
def blockHeader? (cursor : Cursor) : Option (Chomping × Option Nat × Cursor) :=
  let sign? (cursor : Cursor) : Option Chomping := cursor.peek?.bind chomping?
  let digit? (cursor : Cursor) : Option Nat := cursor.peek?.bind indentation?
  match sign? cursor, digit? cursor with
  | some chomping, _ =>
    match digit? cursor.skip with
    | some indentation => cursor.skip.skip.finishLine?.map fun behind => (chomping, indentation, behind)
    | none => cursor.skip.finishLine?.map fun behind => (chomping, none, behind)
  | none, some indentation =>
    match sign? cursor.skip with
    | some chomping => cursor.skip.skip.finishLine?.map fun behind => (chomping, indentation, behind)
    | none => cursor.skip.finishLine?.map fun behind => (.clip, indentation, behind)
  | none, none => cursor.finishLine?.map fun behind => (.clip, none, behind)

/-- Blank lines of a block and the indentation of the line behind them: the breaks, the last one
first, and the largest column that was reached. A tab must not stand in the indentation. -/
def blockBreaks? (indent : Option Nat) (breaks : List Char) (widest : Nat) (position : Position) :
    List Char → Option (List Char × Nat × Cursor)
  | [] => some (breaks, max widest position.column, ⟨position, []⟩)
  | '\r' :: '\n' :: rest =>
    blockBreaks? indent ('\n' :: breaks) (max widest position.column) (position.nextLine 2) rest
  | c :: rest =>
    let widest := max widest position.column
    let indenting := indent.all fun limit => position.column < limit
    if indenting && c = ' ' then blockBreaks? indent breaks widest (position.after c) rest
    else if indenting && c = '\t' then none
    else if isBreak c then
      blockBreaks? indent (breakChar c :: breaks) widest (position.nextLine c.utf8Size) rest
    else some (breaks, widest, ⟨position, c :: rest⟩)

/-- What has been read of a block. -/
structure OpenBlock where
  /-- The text, its last character first. -/
  text : List Char := []
  /-- The break of the last line. -/
  lineBreak : Option Char := none
  /-- The breaks of the blank lines since, the last one first. -/
  blankLines : List Char := []
  /-- Whether the last line started with a blank. -/
  leadingBlank : Bool := false

/-- Adds the breaks before a line; folded lines that start with no blank are joined by a space. -/
def OpenBlock.join (block : OpenBlock) (literal startsBlank : Bool) : List Char :=
  let folds := !literal && block.lineBreak == some '\n' && !block.leadingBlank && !startsBlank
  let joint :=
    if folds then if block.blankLines.isEmpty then [' '] else []
    else block.lineBreak.toList
  block.blankLines ++ joint ++ block.text

/-- Reads the lines of a block that are indented by the given number of columns. -/
def blockLines? (literal : Bool) (indent : Nat) :
    (fuel : Nat) → OpenBlock → Cursor → Option (OpenBlock × Cursor)
  | 0, _, _ => none
  | fuel + 1, block, cursor =>
    match cursor.rest with
    | [] => some (block, cursor)
    | first :: _ =>
      if cursor.column ≠ indent then some (block, cursor)
      else
        let (line, behind) := cursor.span fun _ => true
        let (lineBreak, behind) := behind.takeBreak?
        match blockBreaks? (some indent) [] 0 behind.position behind.rest with
        | none => none
        | some (blankLines, _, cursor) =>
          let block : OpenBlock :=
            { text := line.reverse ++ block.join literal (isBlank first)
              lineBreak, blankLines, leadingBlank := isBlank first }
          blockLines? literal indent fuel block cursor

/-- A block at the cursor within a block of the given indentation. -/
def block? (outer : Int) (cursor : Cursor) : Option ScannedScalar := do
  let literal := cursor.isAt '|'
  let (chomping, increment, cursor) ← blockHeader? cursor.skip
  let given := increment.map fun increment => (max outer 0).toNat + increment
  let (blankLines, widest, cursor) ← blockBreaks? given [] 0 cursor.position cursor.rest
  let indent := given.getD (max (max widest (outer + 1).toNat) 1)
  let (block, cursor) ←
    blockLines? literal indent (cursor.rest.length + 1) { blankLines } cursor
  let lineBreak := if chomping = .strip then [] else block.lineBreak.toList
  let blankLines := if chomping = .keep then block.blankLines else []
  return { text := String.ofList (blankLines ++ lineBreak ++ block.text).reverse, cursor }

end ComponentAtlas.Yaml

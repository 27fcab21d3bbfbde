import ComponentAtlas.Yaml.Scalar
import ComponentAtlas.Yaml.Tag

/-!
# Tokens of YAML text

A text as a list of tokens, in which indentation has become brackets: a token opens each block and
another one closes it. A key is recognised by the colon behind it, so a place where a simple key
started is remembered, and its tokens are put there later.
-/

namespace ComponentAtlas.Yaml

/-- A token. -/
inductive Token
  | documentStart
  | documentEnd
  | directive (directive : Directive)
  | blockSequenceStart
  | blockMappingStart
  | blockEnd
  | flowSequenceStart
  | flowSequenceEnd
  | flowMappingStart
  | flowMappingEnd
  | blockEntry
  | flowEntry
  | key
  | value
  | alias (name : String)
  | anchor (name : String)
  | tag (written : WrittenTag)
  | scalar (plain : Bool) (text : String)
  deriving DecidableEq, Inhabited

/-- A place where a simple key may have started. -/
structure KeyPlace where
  /-- How many tokens come before it. -/
  tokens : Nat
  position : Position
  /-- Whether nothing but a key can stand there. -/
  required : Bool
  deriving Inhabited

/-- The state of a reader that turns a text into tokens. -/
structure Lexer where
  cursor : Cursor
  tokens : Array Token := #[]
  /-- The column of the block around, -1 outside of all blocks. -/
  indent : Int := -1
  /-- The columns of the blocks further out. -/
  outer : List Int := []
  /-- Whether a simple key may start at the cursor. -/
  keyAllowed : Bool := true
  /-- The place of a simple key in the block and in each flow collection, the innermost first. -/
  places : List (Option KeyPlace) := [none]

namespace Lexer

/-- Whether the cursor is within a flow collection. -/
def inFlow (lexer : Lexer) : Bool :=
  1 < lexer.places.length

/-- Adds a token. -/
def push (lexer : Lexer) (token : Token) : Lexer :=
  { lexer with tokens := lexer.tokens.push token }

/-- Adds a token of one character. -/
def pushMark (lexer : Lexer) (token : Token) : Lexer :=
  { lexer.push token with cursor := lexer.cursor.skip }

/-- Opens a block at a column that is further in, with a token at the given place. -/
def openBlock (lexer : Lexer) (column place : Nat) (token : Token) : Lexer :=
  if lexer.inFlow ∨ (column : Int) ≤ lexer.indent then lexer
  else
    { lexer with
      indent := column
      outer := lexer.indent :: lexer.outer
      tokens := lexer.tokens.insertIdxIfInBounds place token }

/-- Closes the blocks that are further in than a column. -/
def closeBlocks (lexer : Lexer) (column : Int) : Lexer :=
  if lexer.inFlow then lexer
  else
    let closed := (lexer.indent :: lexer.outer).takeWhile fun indent => column < indent
    match (lexer.indent :: lexer.outer).dropWhile fun indent => column < indent with
    | indent :: outer =>
      { lexer with
        indent, outer
        tokens := lexer.tokens ++ List.replicate closed.length Token.blockEnd }
    | [] => lexer

/-- Forgets the place of a simple key; a required one must not be forgotten. -/
def dropPlace? (lexer : Lexer) : Option Lexer :=
  match lexer.places with
  | some place :: places =>
    if place.required then none else some { lexer with places := none :: places }
  | _ => some lexer

/-- Remembers that a simple key may start here. -/
def savePlace? (lexer : Lexer) : Option Lexer :=
  if !lexer.keyAllowed then some lexer
  else do
    let lexer ← lexer.dropPlace?
    let place : KeyPlace :=
      { tokens := lexer.tokens.size
        position := lexer.cursor.position
        required := !lexer.inFlow && lexer.indent == (lexer.cursor.column : Int) }
    return { lexer with places := some place :: lexer.places.drop 1 }

/-- The longest simple key, in bytes. -/
def maxKeyBytes : Nat := 1024

/-- Forgets the places whose line or length has been exceeded. -/
def dropStalePlaces? (lexer : Lexer) : Option Lexer := do
  let position := lexer.cursor.position
  let places ← lexer.places.mapM fun
    | some place =>
      if place.position.line < position.line ∨ place.position.index + maxKeyBytes < position.index then
        if place.required then none else some none
      else some (some place)
    | none => some none
  return { lexer with places }

/-- Skips blanks, comments and line breaks. A new line may start a simple key; where one may start, a
tab is no blank. -/
def skipToToken : (fuel : Nat) → Lexer → Lexer
  | 0, lexer => lexer
  | fuel + 1, lexer =>
    let cursor := lexer.cursor
    let cursor := if cursor.position.index = 0 ∧ cursor.isAt '\ufeff' then cursor.skip else cursor
    let tabs := lexer.inFlow || !lexer.keyAllowed
    let cursor := cursor.skipWhile fun c => c = ' ' || (tabs && c = '\t')
    let cursor := if cursor.isAt '#' then cursor.skipWhile fun _ => true else cursor
    match cursor.takeBreak? with
    | (some _, cursor) =>
      skipToToken fuel { lexer with cursor, keyAllowed := lexer.keyAllowed || !lexer.inFlow }
    | (none, _) => { lexer with cursor }

/-- Takes a scalar that has been read. -/
def pushScalar (lexer : Lexer) (plain : Bool) (scanned : ScannedScalar) : Lexer :=
  { lexer.push (.scalar plain scanned.text) with cursor := scanned.cursor }

/-- Takes a token between documents. -/
def pushEdge? (lexer : Lexer) (token : Token) (cursor : Cursor) : Option Lexer := do
  let lexer ← (lexer.closeBlocks (-1)).dropPlace?
  return { lexer.push token with cursor, keyAllowed := false }

/-- Opens a block for an entry of a collection that starts here; in a flow collection none opens. -/
def enter? (lexer : Lexer) (token : Token) : Option Lexer :=
  if lexer.inFlow then some lexer
  else if !lexer.keyAllowed then none
  else some (lexer.openBlock lexer.cursor.column lexer.tokens.size token)

/-- Takes the colon of a value. The simple key before it, if there is one, gets its token. -/
def pushValue? (lexer : Lexer) : Option Lexer :=
  match lexer.places with
  | some place :: places =>
    let keyed := { lexer with
      places := none :: places
      tokens := lexer.tokens.insertIdxIfInBounds place.tokens .key
      keyAllowed := false }
    some ((keyed.openBlock place.position.column place.tokens .blockMappingStart).pushMark .value)
  | _ => do
    let lexer ← lexer.enter? .blockMappingStart
    return { lexer.pushMark .value with keyAllowed := !lexer.inFlow }

/-- Opens a flow collection. -/
def openFlow? (lexer : Lexer) (token : Token) : Option Lexer := do
  let lexer ← lexer.savePlace?
  return { lexer.pushMark token with keyAllowed := true, places := none :: lexer.places }

/-- Closes a flow collection. -/
def closeFlow? (lexer : Lexer) (token : Token) : Option Lexer := do
  let lexer ← lexer.dropPlace?
  let places := if lexer.inFlow then lexer.places.drop 1 else lexer.places
  return { lexer.pushMark token with keyAllowed := false, places }

/-- The characters that start no plain scalar by themselves. -/
def isIndicator (c : Char) : Bool :=
  "-?:,[]\x7b\x7d#&*!|>'\"%@`".toList.contains c

/-- Whether a plain scalar starts with the given character. -/
def startsPlain (lexer : Lexer) (c : Char) : Bool :=
  (!isIndicator c && !isBlank c) ||
    (c = '-' && !lexer.cursor.rest[1]?.any isBlank) ||
    (!lexer.inFlow && (c = '?' || c = ':') && !lexer.cursor.endsWord 1)

/-- Reads the token that starts with the given character. -/
def readToken? (lexer : Lexer) (c : Char) : Option Lexer := do
  let cursor := lexer.cursor
  let standsAlone := cursor.endsWord 1
  if cursor.column = 0 ∧ c = '%' then
    let (directive, behind) ← directive? cursor
    lexer.pushEdge? (.directive directive) behind
  else if cursor.atDocumentMark '-' then
    lexer.pushEdge? .documentStart cursor.skip.skip.skip
  else if cursor.atDocumentMark '.' then
    lexer.pushEdge? .documentEnd cursor.skip.skip.skip
  else if c = '[' then lexer.openFlow? .flowSequenceStart
  else if c = '\x7b' then lexer.openFlow? .flowMappingStart
  else if c = ']' then lexer.closeFlow? .flowSequenceEnd
  else if c = '\x7d' then lexer.closeFlow? .flowMappingEnd
  else if c = ',' then
    let lexer ← lexer.dropPlace?
    return { lexer.pushMark .flowEntry with keyAllowed := true }
  else if c = '-' ∧ standsAlone then
    let lexer ← (← lexer.enter? .blockSequenceStart).dropPlace?
    return { lexer.pushMark .blockEntry with keyAllowed := true }
  else if c = '?' ∧ (lexer.inFlow ∨ standsAlone) then
    let lexer ← (← lexer.enter? .blockMappingStart).dropPlace?
    return { lexer.pushMark .key with keyAllowed := !lexer.inFlow }
  else if c = ':' ∧ (lexer.inFlow ∨ standsAlone) then lexer.pushValue?
  else if c = '*' ∨ c = '&' then
    let lexer ← lexer.savePlace?
    let (name, behind) ← anchorName? cursor.skip
    let token := if c = '*' then .alias name else .anchor name
    return { lexer.push token with cursor := behind, keyAllowed := false }
  else if c = '!' then
    let lexer ← lexer.savePlace?
    let (written, behind) ← tag? lexer.inFlow cursor
    return { lexer.push (.tag written) with cursor := behind, keyAllowed := false }
  else if (c = '|' ∨ c = '>') ∧ !lexer.inFlow then
    let lexer ← lexer.dropPlace?
    let scanned ← block? lexer.indent cursor
    return { lexer.pushScalar false scanned with keyAllowed := true }
  else if c = '\'' ∨ c = '"' then
    let lexer ← lexer.savePlace?
    let scanned ← quoted? c cursor
    return { lexer.pushScalar false scanned with keyAllowed := false }
  else if lexer.startsPlain c then
    let lexer ← lexer.savePlace?
    let scanned ← plain? lexer.inFlow lexer.indent cursor
    return { lexer.pushScalar true scanned with keyAllowed := scanned.broken }
  else none

/-- Reads tokens to the end of the text. -/
def run? : (fuel : Nat) → Lexer → Option (Array Token)
  | 0, _ => none
  | fuel + 1, lexer => do
    let lexer ← (skipToToken (lexer.cursor.rest.length + 1) lexer).dropStalePlaces?
    let lexer := lexer.closeBlocks lexer.cursor.column
    match lexer.cursor.rest with
    | [] =>
      let lexer ← (lexer.closeBlocks (-1)).dropPlace?
      return lexer.tokens
    | c :: _ => run? fuel (← lexer.readToken? c)

end Lexer

/-- The tokens of a text. -/
def tokens? (text : List Char) : Option (Array Token) :=
  if text.all isAllowed then Lexer.run? (text.length + 1) { cursor := { rest := text } } else none

end ComponentAtlas.Yaml

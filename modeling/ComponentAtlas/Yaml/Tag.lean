import ComponentAtlas.Unicode.Runs
import ComponentAtlas.Yaml.Cursor

/-!
# Names in YAML text

Anchors and aliases, tags, and the directives that introduce a document.
-/

namespace ComponentAtlas.Yaml

/-- A tag as it is written: a handle, which stands for the start of the tag, and a suffix. -/
structure WrittenTag where
  handle : String
  suffix : String
  deriving DecidableEq, Inhabited

/-- A directive. -/
inductive Directive
  | version (major minor : Nat)
  | tag (handle start : String)
  deriving DecidableEq, Inhabited

/-- The name of an anchor behind its mark. -/
def anchorName? (cursor : Cursor) : Option (String × Cursor) :=
  let (name, behind) := cursor.span isNameChar
  let ends := behind.endsWord 0 || behind.peek?.any fun c => "?:,]\x7d%@`".toList.contains c
  if name.isEmpty || !ends then none else some (String.ofList name, behind)

/-- The bytes of a UTF-8 sequence of which the first one is given: how many follow it, and its bits. -/
def leadingByte? (byte : Nat) : Option (Nat × Nat) :=
  if byte < 0x80 then some (0, byte)
  else if 0xc0 ≤ byte ∧ byte < 0xe0 then some (1, byte % 0x20)
  else if 0xe0 ≤ byte ∧ byte < 0xf0 then some (2, byte % 0x10)
  else if 0xf0 ≤ byte ∧ byte < 0xf8 then some (3, byte % 0x08)
  else none

/-- A byte written as a percent sign and two digits. -/
def escapedByte? : List Char → Option (Nat × List Char)
  | '%' :: a :: b :: rest => do
    return (16 * (← Unicode.hexDigit? a.toLower) + (← Unicode.hexDigit? b.toLower), rest)
  | _ => none

/-- Further escaped bytes of a character. -/
def trailingBytes? : Nat → Nat → List Char → Option (Nat × List Char)
  | 0, code, rest => some (code, rest)
  | count + 1, code, rest =>
    match escapedByte? rest with
    | some (byte, rest) =>
      if 0x80 ≤ byte ∧ byte < 0xc0 then trailingBytes? count (64 * code + byte % 64) rest else none
    | none => none

/-- A character written as escaped bytes. -/
def escapedChar? (rest : List Char) : Option (Char × List Char) := do
  let (byte, rest) ← escapedByte? rest
  let (count, bits) ← leadingByte? byte
  let (code, rest) ← trailingBytes? count bits rest
  if code < 0xd800 ∨ 0xdfff < code ∧ code < 0x110000 then return (Char.ofNat code, rest) else none

/-- Whether a character may stand in a tag; some more may between angle brackets. -/
def isTagChar (verbatim : Bool) (c : Char) : Bool :=
  isNameChar c || ";/?:@&=+$.%!~*'()".toList.contains c || (verbatim && ",[]".toList.contains c)

/-- The text of a tag with its escapes decoded. -/
def decodeTag? : (fuel : Nat) → List Char → Option (List Char)
  | 0, _ => some []
  | _ + 1, [] => some []
  | fuel + 1, c :: rest =>
    if c = '%' then do
      let (value, rest) ← escapedChar? (c :: rest)
      return value :: (← decodeTag? fuel rest)
    else (decodeTag? fuel rest).map (c :: ·)

/-- The characters of a tag at the cursor. -/
def tagText? (verbatim : Bool) (cursor : Cursor) : Option (List Char × Cursor) :=
  let (written, behind) := cursor.span (isTagChar verbatim)
  (decodeTag? (written.length + 1) written).map fun chars => (chars, behind)

/-- A handle: an exclamation mark, or a name between two. Without the second mark it is no handle and
the result says so. -/
def tagHandle? (cursor : Cursor) : Option (List Char × Bool × Cursor) :=
  if !cursor.isAt '!' then none
  else
    let (name, behind) := cursor.skip.span isNameChar
    if behind.isAt '!' then some ('!' :: name ++ ['!'], true, behind.skip)
    else some ('!' :: name, name.isEmpty, behind)

/-- The tag at the cursor. -/
def tag? (flow : Bool) (cursor : Cursor) : Option (WrittenTag × Cursor) := do
  let (tag, behind) ← (do
    if cursor.rest[1]? = some '<' then
      let (suffix, behind) ← tagText? true cursor.skip.skip
      if suffix.isEmpty ∨ !behind.isAt '>' then none
      else return (⟨"", String.ofList suffix⟩, behind.skip)
    else
      let (handle, closed, behind) ← tagHandle? cursor
      let (suffix, behind) ← tagText? false behind
      if closed ∧ handle.length ≠ 1 then
        if suffix.isEmpty then none
        else return (⟨String.ofList handle, String.ofList suffix⟩, behind)
      else
        let suffix := handle.drop 1 ++ suffix
        if suffix.isEmpty then return (⟨"", "!"⟩, behind)
        else return (⟨"!", String.ofList suffix⟩, behind) : Option (WrittenTag × Cursor))
  if behind.endsWord 0 ∨ flow ∧ behind.isAt ',' then return (tag, behind) else none

/-- A number of at most nine digits. -/
def versionNumber? (cursor : Cursor) : Option (Nat × Cursor) :=
  let (digits, behind) := cursor.span Char.isDigit
  if digits.isEmpty ∨ 9 < digits.length then none
  else some (digits.foldl (fun total c => 10 * total + (c.toNat - '0'.toNat)) 0, behind)

/-- The version that a directive names. -/
def versionDirective? (cursor : Cursor) : Option (Directive × Cursor) := do
  let (major, behind) ← versionNumber? (cursor.skipWhile isBlank)
  if !behind.isAt '.' then none
  else
    let (minor, behind) ← versionNumber? behind.skip
    return (.version major minor, behind)

/-- The handle and the start of tags that a directive joins. -/
def tagDirective? (cursor : Cursor) : Option (Directive × Cursor) := do
  let (handle, closed, behind) ← tagHandle? (cursor.skipWhile isBlank)
  if !closed ∨ !behind.peek?.any isBlank then none
  else
    let (start, behind) ← tagText? true (behind.skipWhile isBlank)
    if start.isEmpty ∨ !behind.endsWord 0 then none
    else return (.tag (String.ofList handle) (String.ofList start), behind)

/-- The directive at the cursor, with the rest of its line. -/
def directive? (cursor : Cursor) : Option (Directive × Cursor) := do
  let (name, behind) := cursor.skip.span isNameChar
  if !behind.endsWord 0 then none
  else
    let (directive, behind) ←
      if name = "YAML".toList then versionDirective? behind
      else if name = "TAG".toList then tagDirective? behind
      else none
    return (directive, ← behind.finishLine?)

end ComponentAtlas.Yaml

import ComponentAtlas.Node
import ComponentAtlas.PropertyPath

/-!
# Faults

Everything that can go wrong while trees are read, merged and shown. A fault is a cause with the
position or name it concerns; its wording is in `Fault.message` alone.
-/

namespace ComponentAtlas

/-- Why a glob does not compile. -/
inductive GlobFault
  /-- Three or more stars in a row. -/
  | wildcards
  /-- Two stars that are not a path component of their own. -/
  | recursiveWildcards
  /-- A bracket that is not closed or holds nothing. -/
  | range
  deriving DecidableEq, Inhabited

/-- The wording of a glob fault. -/
def GlobFault.message : GlobFault → String
  | wildcards => "wildcards are either regular `*` or recursive `**`"
  | recursiveWildcards => "recursive wildcards must form a single path component"
  | range => "invalid range pattern"

/-- Why a pattern does not compile. -/
inductive PatternFault
  /-- Not a regular expression. -/
  | regex
  /-- A regular expression whose automaton would be larger than the given number of bytes. -/
  | regexSize (limit : Nat)
  | glob (fault : GlobFault)
  deriving DecidableEq, Inhabited

/-- The wording of a pattern fault. -/
def PatternFault.message : PatternFault → String
  | regex => "regex parse error"
  | regexSize limit => "Compiled regex exceeds size limit of " ++ toString limit ++ " bytes."
  | glob fault => fault.message

/-- Why a file cannot be reached or read. -/
inductive FileFault
  | notFound
  | notADirectory
  | isADirectory
  | tooManyLinks
  /-- The file holds bytes that are not UTF-8. -/
  | notText
  deriving DecidableEq, Inhabited

/-- The wording of a file fault. -/
def FileFault.message : FileFault → String
  | notFound => "No such file or directory (os error 2)"
  | notADirectory => "Not a directory (os error 20)"
  | isADirectory => "Is a directory (os error 21)"
  | tooManyLinks => "Too many levels of symbolic links (os error 40)"
  | notText => "stream did not contain valid UTF-8"

/-- Why a path cannot be read. -/
inductive ReadFault
  /-- Reading the path itself failed. -/
  | file (fault : FileFault)
  /-- A walk through a directory met an entry that cannot be reached. -/
  | entry (path : String) (fault : FileFault)
  /-- A walk through a directory met a link to a directory that it is already inside. -/
  | loop (path ancestor : String)
  deriving DecidableEq, Inhabited

/-- The wording of a read fault, the most general cause first. -/
def ReadFault.messages : ReadFault → List String
  | file fault => [fault.message]
  | entry path fault =>
    ["IO error for operation on " ++ path ++ ": " ++ fault.message, fault.message]
  | loop path ancestor =>
    ["File system loop found: " ++ path ++ " points to an ancestor " ++ ancestor]

/-- Why a file's content is refused. -/
inductive FormatFault
  /-- The extension names no known format. -/
  | extension
  /-- The content is not a document of the expected form. -/
  | content
  deriving DecidableEq, Inhabited

/-- The wording of a format fault. -/
def FormatFault.message : FormatFault → String
  | extension => "unsupported file extension (expected .json, .yaml, .yml or .toml)"
  | content => "invalid document"

/-- A failure of a query. -/
inductive Fault
  /-- The strict policy refuses to put a node of one kind onto a node of another. -/
  | mergeConflict (path : PropertyPath) (existing incoming : Kind)
  /-- A literal without a form in source text. -/
  | unsupportedLiteral (path : PropertyPath) (literal : Literal)
  | unknownPrototype (name : String)
  | unknownPackage (name : String)
  /-- A property name that is empty or holds a separator, or a misplaced directive. -/
  | invalidName (path : PropertyPath)
  | invalidPattern (pattern : String) (fault : PatternFault)
  | unreadable (path : String) (fault : ReadFault)
  | undecodable (path : String) (fault : FormatFault)
  deriving DecidableEq, Inhabited

namespace Fault

/-- The name of the kind of fault. -/
def kindName : Fault → String
  | mergeConflict .. => "MergeConflict"
  | unsupportedLiteral .. => "UnsupportedLiteral"
  | unknownPrototype _ => "UnknownPrototype"
  | unknownPackage _ => "UnknownPackage"
  | invalidName _ => "InvalidName"
  | invalidPattern .. => "InvalidPattern"
  | unreadable .. => "Io"
  | undecodable .. => "Format"

/-- The wording of a fault. -/
def message : Fault → String
  | mergeConflict path existing incoming =>
    "Merge conflict at " ++ path.display ++ ": cannot merge " ++ incoming.name ++ " onto " ++
      existing.name
  | unsupportedLiteral path literal =>
    "Unsupported literal at " ++ path.display ++ ": " ++ literal.typeName ++ " " ++ literal.display
  | unknownPrototype name => "Unknown prototype: " ++ name
  | unknownPackage name => "Unknown package: " ++ name
  | invalidName path => "Invalid property name at " ++ path.display
  | invalidPattern pattern fault => "Invalid pattern '" ++ pattern ++ "': " ++ fault.message
  | unreadable path fault => "Failed to read " ++ path ++ ": " ++ (fault.messages.headD "")
  | undecodable path fault => "Failed to decode " ++ path ++ ": " ++ fault.message

/-- The wording of a fault followed by that of its causes. -/
def chain (fault : Fault) : List String :=
  fault.message :: match fault with
    | unreadable _ cause => cause.messages
    | _ => []

end Fault

end ComponentAtlas

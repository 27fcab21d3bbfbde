import ComponentAtlas.Keyed

/-!
# Documents

What a reader finds in a text before anyone asks what it stands for. Scalars of YAML stay as they
are written, because their meaning depends on the type that is asked for.
-/

namespace ComponentAtlas

/-- The content of a data file. -/
inductive Document
  | null
  | bool (value : Bool)
  /-- An integer that fits into a word, signed or unsigned. -/
  | integer (value : Int)
  | float (value : Float)
  | text (value : String)
  /-- A scalar as written: whether it stands without quotes, and its tag. -/
  | scalar (plain : Bool) (tag : Option String) (value : String)
  | list (items : List Document)
  | table (entries : List (Document × Document))
  /-- A list or table with an application's own tag. -/
  | tagged (tag : String) (content : Document)
  /-- Content that is well formed but has no value, such as a number out of range. It does no harm
  where it is not looked at. -/
  | malformed
  deriving Inhabited

end ComponentAtlas

import ComponentAtlas.Decimal.Layout
import ComponentAtlas.Text.Quoted

/-!
# Literals

The scalar values of the composition language. Integers have the range of 64-bit words and
floating-point numbers are IEEE doubles, NaN and the infinities included.
-/

namespace ComponentAtlas

/-- A literal value. -/
inductive Literal
  | null
  | bool (value : Bool)
  | integer (value : Int64)
  | float (value : Float)
  | string (value : String)
  deriving DecidableEq, Inhabited

namespace Literal

/-- The name of the value's type, as messages show it. -/
def typeName : Literal → String
  | null => "null"
  | bool _ => "boolean"
  | integer _ => "integer"
  | float _ => "float"
  | string _ => "string"

/-- The literal as messages show it. -/
def display : Literal → String
  | null => "null"
  | bool value => if value then "true" else "false"
  | integer value => toString value.toInt
  | float value => NumberLayout.plain.text value
  | string value => Text.quoted value

/-- Source text has a form for every literal except NaN and the infinities. -/
def isRenderable : Literal → Bool
  | float value => value.isFinite
  | _ => true

end Literal

end ComponentAtlas

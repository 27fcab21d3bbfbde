import ComponentAtlas.Keyed

/-!
# Values

Plain data as it is written to JSON and YAML. Records keep the order of their fields.
-/

namespace ComponentAtlas

/-- A value to be written. -/
inductive Value
  | null
  | bool (value : Bool)
  | integer (value : Int)
  | float (value : Float)
  | text (value : String)
  | list (items : List Value)
  | record (fields : List (String × Value))
  deriving Inhabited

namespace Value

/-- A list of texts. -/
def texts (items : List String) : Value :=
  .list (items.map .text)

/-- A text, or null when it is absent. -/
def optionalText (value : Option String) : Value :=
  (value.map .text).getD .null

/-- A field that is left out when its value is absent. -/
def optionalField (name : String) (value : Option Value) : List (String × Value) :=
  match value with
  | some value => [(name, value)]
  | none => []

end Value

end ComponentAtlas

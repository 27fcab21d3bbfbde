import ComponentAtlas.Decimal.Power
import ComponentAtlas.Decimal.Reading
import ComponentAtlas.Document

/-!
# Scalars of YAML

What a scalar means when no type is asked for. Plain scalars are null, truth values, integers in
four radices, doubles, or else text; the tags of these types force one reading.
-/

namespace ComponentAtlas.Scalar

/-- The words for null. -/
def isNull (text : String) : Bool :=
  ["null", "Null", "NULL", "~"].contains text

/-- The words for the truth values. -/
def bool? (text : String) : Option Bool :=
  if ["true", "True", "TRUE"].contains text then some true
  else if ["false", "False", "FALSE"].contains text then some false
  else none

/-- The value of a digit in a radix up to sixteen. -/
def digit? (radix : Nat) (c : Char) : Option Nat :=
  let value? :=
    if '0' ≤ c ∧ c ≤ '9' then some (c.toNat - '0'.toNat)
    else if 'a' ≤ c ∧ c ≤ 'f' then some (c.toNat - 'a'.toNat + 10)
    else if 'A' ≤ c ∧ c ≤ 'F' then some (c.toNat - 'A'.toNat + 10)
    else none
  value?.filter (· < radix)

/-- The natural number that digits write in a radix; at least one digit is needed. -/
def natural? (radix : Nat) (digits : List Char) : Option Nat :=
  if digits.isEmpty then none
  else digits.foldlM (fun total c => (digit? radix c).map (radix * total + ·)) 0

/-- Whether the text is a row of digits that starts with a needless zero, which makes it a text. -/
def isPaddedNumber (text : List Char) : Bool :=
  let digits := match text with
    | '-' :: rest | '+' :: rest => rest
    | _ => text
  1 < digits.length && digits.head? == some '0' && digits.all Char.isDigit

/-- The natural number after a radix mark or without one. -/
def magnitude? (text : List Char) : Option Nat :=
  match text with
  | '0' :: 'x' :: rest => natural? 16 rest
  | '0' :: 'o' :: rest => natural? 8 rest
  | '0' :: 'b' :: rest => natural? 2 rest
  | _ => if isPaddedNumber text then none else natural? 10 text

/-- The integer that a text writes. -/
def integer? (text : String) : Option Int :=
  match text.toList with
  | '-' :: rest => (magnitude? rest).map fun n => -(n : Int)
  | '+' :: rest => (magnitude? rest).map fun n => (n : Int)
  | rest => (magnitude? rest).map fun n => (n : Int)

/-- The document of an integer. Those beyond a word have no value up to 128 bits. -/
def integerDocument? (text : String) : Option Document :=
  (integer? text).bind fun n =>
    if fitsBits 64 n then some (.integer n)
    else if fitsBits 128 n then some .malformed
    else none

/-- The double that a text writes: NaN, an infinity, or a decimal in range. -/
def float? (text : String) : Option Float :=
  if [".inf", ".Inf", ".INF", "+.inf", "+.Inf", "+.INF"].contains text then some (1 / 0)
  else if ["-.inf", "-.Inf", "-.INF"].contains text then some (-1 / 0)
  else if [".nan", ".NaN", ".NAN"].contains text then some (0 / 0)
  else (DecimalText.ofText? text).bind fun number =>
    if number.nearest.isFinite then some number.nearest else none

/-- The meaning of a plain scalar. -/
def resolvePlain (text : String) : Document :=
  if text = "" || isNull text then .null
  else match bool? text with
    | some value => .bool value
    | none =>
      match integerDocument? text with
      | some document => document
      | none =>
        if isPaddedNumber text.toList then .text text
        else match float? text with
          | some value => .float value
          | none => .text text

/-- The tags of the core types. -/
def coreTag (name : String) : String :=
  "tag:yaml.org,2002:" ++ name

/-- The name in an application's own tag: what follows the mark. -/
def localTag? (tag : Option String) : Option String :=
  match tag.map String.toList with
  | some ['!'] => some "!"
  | some ('!' :: rest) => some (String.ofList rest)
  | _ => none

/-- The meaning of a scalar with or without quotes and a tag. -/
def resolve (plain : Bool) (tag : Option String) (text : String) : Document :=
  match tag with
  | none => if plain then resolvePlain text else .text text
  | some name =>
    if (localTag? tag).isSome then .malformed
    else if name = coreTag "bool" then
      match bool? text with
      | some value => .bool value
      | none => .malformed
    else if name = coreTag "int" then (integerDocument? text).getD .malformed
    else if name = coreTag "float" then
      match float? text with
      | some value => .float value
      | none => .malformed
    else if name = coreTag "null" then if isNull text then .null else .malformed
    else .text text

end ComponentAtlas.Scalar

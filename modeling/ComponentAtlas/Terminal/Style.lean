/-!
# Terminal styles

How text is made to stand out on a terminal: it is put between two control sequences, the first of
which begins a style while the second ends every style.
-/

namespace ComponentAtlas

/-- A way in which a terminal shows text. -/
inductive Style
  | bold
  | dimmed
  | red
  | green
  | yellow
  | blue
  | cyan
  | boldBlue
  deriving DecidableEq, Inhabited

namespace Style

/-- The parameters of the sequence that begins a style. -/
def parameters : Style → String
  | bold => "1"
  | dimmed => "2"
  | red => "31"
  | green => "32"
  | yellow => "33"
  | blue => "34"
  | cyan => "36"
  | boldBlue => "1;34"

/-- The sequence that begins a style. -/
def opening (style : Style) : String :=
  "\x1b[" ++ style.parameters ++ "m"

/-- The sequence that ends every style. -/
def closing : String := "\x1b[0m"

end Style

/-- Whether a terminal shows styles. -/
structure Terminal where
  coloured : Bool := false
  deriving DecidableEq, Inhabited

/-- Whether a variable with a value stands for yes. -/
def isYes (value : String) : Bool := value ≠ "0"

/-- Whether styles are shown, by the values of three variables: one that forces styles, one that forbids
them, and one that allows them where the output is shown on a screen. -/
def Terminal.ofVariables (force forbid allow : Option String) (isScreen : Bool) : Terminal :=
  { coloured := (force.any isYes) || (forbid.isNone && isScreen && allow.all isYes) }

/-- The text in a style. Where the text itself ends all styles, the style begins again. -/
def Terminal.paint (terminal : Terminal) (style : Style) (text : String) : String :=
  if terminal.coloured then
    style.opening ++ text.replace Style.closing (Style.closing ++ style.opening) ++ Style.closing
  else text

end ComponentAtlas

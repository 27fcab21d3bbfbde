import ComponentAtlas.Glob
import ComponentAtlas.Regex.Parser

/-!
# Classification of prototypes

Structure rules put prototypes into groups: the first rule whose regular expression matches somewhere
in the name wins, and a name that no rule matches belongs to a group of its own. Hide patterns are
globs for whole names that are left out of listings. Both are compiled before they are used, so
classification cannot fail.
-/

namespace ComponentAtlas

/-- The icon of a group that names none. -/
def defaultIcon : String := "icon-question"

/-- The colour of a group that names none. -/
def defaultColor : String := "white"

/-- How a group of prototypes is shown. -/
structure Structure where
  label : String
  icon : String := defaultIcon
  color : String := defaultColor
  deriving DecidableEq, Inhabited

/-- The group of the prototypes that no rule matches. -/
def Structure.other : Structure := { label := "Other" }

/-- A rule as it is configured: a pattern and the group of the names that it matches. -/
structure StructureRule where
  pattern : String
  group : Structure
  deriving DecidableEq, Inhabited

/-- A rule whose pattern has been compiled. -/
structure CompiledRule where
  rule : StructureRule
  regex : Regex

/-- Compiles the pattern of a rule. -/
def StructureRule.compile (rule : StructureRule) : Except Fault CompiledRule :=
  match Regex.parse rule.pattern with
  | .ok regex => .ok { rule, regex }
  | .error fault => .error (.invalidPattern rule.pattern fault)

/-- Compiles a hide pattern. -/
def compileHidePattern (pattern : String) : Except Fault Glob :=
  match Glob.parse pattern with
  | .ok glob => .ok glob
  | .error fault => .error (.invalidPattern pattern (.glob fault))

/-- Compiled rules and hide patterns. -/
structure Classifier where
  rules : List CompiledRule := []
  hidePatterns : List Glob := []

namespace Classifier

/-- Compiles rules, then hide patterns; the first that does not compile is reported. -/
def compile (rules : List StructureRule) (hidePatterns : List String) :
    Except Fault Classifier := do
  let rules ← rules.mapM StructureRule.compile
  let hidePatterns ← hidePatterns.mapM compileHidePattern
  return { rules, hidePatterns }

/-- The first rule that matches a name. -/
def rule? (classifier : Classifier) (name : String) : Option StructureRule :=
  (classifier.rules.find? fun compiled => compiled.regex.isMatch name).map CompiledRule.rule

/-- The group of a name. -/
def classify (classifier : Classifier) (name : String) : Structure :=
  ((classifier.rule? name).map StructureRule.group).getD .other

/-- Whether some pattern hides a name. -/
def isHidden (classifier : Classifier) (name : String) : Bool :=
  classifier.hidePatterns.any fun glob => glob.isMatch name

end Classifier

end ComponentAtlas

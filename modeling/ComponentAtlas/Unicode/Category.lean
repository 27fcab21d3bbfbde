import ComponentAtlas.Unicode.CategoryTable
import ComponentAtlas.Unicode.Runs

/-!
# General categories

Each code point has one of thirty general categories, named by two letters. The first letter names
the major class.
-/

namespace ComponentAtlas.Unicode

/-- The starts and categories of the runs of equal category. -/
def categoryRuns : Array (Nat × String) :=
  readRuns 2 categoryTable

/-- The two letters of the general category of a character. -/
def category (c : Char) : String :=
  (runLabel? categoryRuns c.toNat).getD "Cn"

/-- Whether the category of a character is one of those given. -/
def hasCategory (categories : List String) (c : Char) : Bool :=
  categories.contains (category c)

/-- The general categories and the groups of them, each with its names and its members. -/
def categoryGroups : List (List String × List String) :=
  [(["C", "Other"], ["Cc", "Cf", "Cn", "Co", "Cs"]),
    (["Cc", "Control", "cntrl"], ["Cc"]),
    (["Cf", "Format"], ["Cf"]),
    (["Cn", "Unassigned"], ["Cn"]),
    (["Co", "Private_Use"], ["Co"]),
    (["Cs", "Surrogate"], ["Cs"]),
    (["L", "Letter"], ["Lu", "Ll", "Lt", "Lm", "Lo"]),
    (["LC", "Cased_Letter"], ["Lu", "Ll", "Lt"]),
    (["Ll", "Lowercase_Letter"], ["Ll"]),
    (["Lm", "Modifier_Letter"], ["Lm"]),
    (["Lo", "Other_Letter"], ["Lo"]),
    (["Lt", "Titlecase_Letter"], ["Lt"]),
    (["Lu", "Uppercase_Letter"], ["Lu"]),
    (["M", "Mark", "Combining_Mark"], ["Mn", "Mc", "Me"]),
    (["Mc", "Spacing_Mark"], ["Mc"]),
    (["Me", "Enclosing_Mark"], ["Me"]),
    (["Mn", "Nonspacing_Mark"], ["Mn"]),
    (["N", "Number"], ["Nd", "Nl", "No"]),
    (["Nd", "Decimal_Number", "digit"], ["Nd"]),
    (["Nl", "Letter_Number"], ["Nl"]),
    (["No", "Other_Number"], ["No"]),
    (["P", "Punctuation", "punct"], ["Pc", "Pd", "Ps", "Pe", "Pi", "Pf", "Po"]),
    (["Pc", "Connector_Punctuation"], ["Pc"]),
    (["Pd", "Dash_Punctuation"], ["Pd"]),
    (["Pe", "Close_Punctuation"], ["Pe"]),
    (["Pf", "Final_Punctuation"], ["Pf"]),
    (["Pi", "Initial_Punctuation"], ["Pi"]),
    (["Po", "Other_Punctuation"], ["Po"]),
    (["Ps", "Open_Punctuation"], ["Ps"]),
    (["S", "Symbol"], ["Sm", "Sc", "Sk", "So"]),
    (["Sc", "Currency_Symbol"], ["Sc"]),
    (["Sk", "Modifier_Symbol"], ["Sk"]),
    (["Sm", "Math_Symbol"], ["Sm"]),
    (["So", "Other_Symbol"], ["So"]),
    (["Z", "Separator"], ["Zs", "Zl", "Zp"]),
    (["Zl", "Line_Separator"], ["Zl"]),
    (["Zp", "Paragraph_Separator"], ["Zp"]),
    (["Zs", "Space_Separator"], ["Zs"])]

end ComponentAtlas.Unicode

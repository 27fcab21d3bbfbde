import ComponentAtlas.Json.Writer
import ComponentAtlas.Terminal.Style
import ComponentAtlas.Terminal.Table
import ComponentAtlas.Yaml.Writer

/-!
# Reports

What the program prints. Data formats print a value; the text format prints lines, among them those of
headings, lists and tables.
-/

namespace ComponentAtlas

/-- A format of reports. -/
inductive ReportFormat
  | text
  | json
  | yaml
  deriving DecidableEq, Inhabited

namespace ReportFormat

/-- The name of a format. -/
def name : ReportFormat → String
  | text => "Text"
  | json => "Json"
  | yaml => "Yaml"

/-- The format that an option names. -/
def ofName? : String → Option ReportFormat
  | "text" => some text
  | "json" => some json
  | "yaml" => some yaml
  | _ => none

/-- The format that is meant by a text: letter case does not matter, and the short names of files are
known too. -/
def ofText? (written : String) : Option ReportFormat :=
  match written.toLower with
  | "text" | "txt" => some text
  | "json" => some json
  | "yaml" | "yml" => some yaml
  | _ => none

/-- The wording where a text means no format. -/
def unknownMessage (written : String) : String :=
  "Unknown output format: " ++ written

/-- Whether reports in a format are data. -/
def isStructured : ReportFormat → Bool
  | text => false
  | json | yaml => true

end ReportFormat

/-- How data are printed. -/
structure Printer where
  format : ReportFormat := .text
  /-- Whether JSON is spread over lines. -/
  pretty : Bool := false
  deriving DecidableEq, Inhabited

/-- Texts as lines. -/
def linesText (lines : List String) : String :=
  String.join (lines.map (· ++ "\n"))

/-- A value in the format of the printer; the text format shows it as JSON over several lines. -/
def Printer.object (printer : Printer) (value : Value) : String :=
  match printer.format with
  | .yaml => Yaml.document value
  | .text => linesText [Json.indented 0 value]
  | .json => linesText [if printer.pretty then Json.indented 0 value else Json.compact value]

/-- A heading: an empty line, the text, and a rule of the same length. -/
def headerLines (terminal : Terminal) (text : String) : List String :=
  ["", terminal.paint .boldBlue text,
    terminal.paint .blue (String.ofList (List.replicate text.length '='))]

/-- An item of a list. -/
def itemLine (text : String) : String :=
  "  • " ++ text

/-- What a query shows: the value for data formats and the lines for the text format. -/
structure Report where
  value : Value
  lines : List String

/-- A report as it is printed. -/
def Printer.print (printer : Printer) (report : Report) : String :=
  if printer.format.isStructured then printer.object report.value else linesText report.lines

end ComponentAtlas

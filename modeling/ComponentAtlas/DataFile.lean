import ComponentAtlas.Document.View
import ComponentAtlas.Files
import ComponentAtlas.Json.Reader
import ComponentAtlas.Toml.Reader
import ComponentAtlas.Yaml.Reader

/-!
# Data files

Files that hold data in JSON, YAML or TOML, told apart by the extensions of their names.
-/

namespace ComponentAtlas

/-- A format of data files. -/
inductive DataFormat
  | json
  | yaml
  | toml
  deriving DecidableEq, Inhabited

namespace DataFormat

/-- The name of a format. -/
def name : DataFormat → String
  | json => "Json"
  | yaml => "Yaml"
  | toml => "Toml"

/-- The format of a file, by the extension of its path. -/
def ofPath? (path : String) : Option DataFormat :=
  match extension? path with
  | some "json" => some json
  | some "yaml" | some "yml" => some yaml
  | some "toml" => some toml
  | _ => none

/-- The dialect in which documents of a format answer. -/
def dialect : DataFormat → Dialect
  | json => .json
  | yaml => .yaml
  | toml => .toml

/-- The document that a text of a format holds. -/
def read? : DataFormat → String → Option Document
  | json, text => Json.read? text
  | yaml, text => Yaml.read? text
  | toml, text => Toml.read? text

/-- What a text of a format stands for. -/
def decode? {α : Type} (format : DataFormat) (decode : Dialect → Document → Option α)
    (text : String) : Option α :=
  (format.read? text).bind (decode format.dialect)

end DataFormat

/-- The text without the marks of its byte order at its start. -/
def withoutByteOrderMark (text : String) : String :=
  String.ofList (text.toList.dropWhile (· = '\ufeff'))

namespace FileSystem

/-- The text in a file. -/
def readText (files : FileSystem) (path : String) : Except Fault String :=
  match files.read path with
  | .error fault => .error (.unreadable path (.file fault))
  | .ok content =>
    match String.fromUTF8? content with
    | some text => .ok (withoutByteOrderMark text)
    | none => .error (.unreadable path (.file .notText))

/-- The data in a file. The name is looked at before the content. -/
def readData {α : Type} (files : FileSystem) (decode : Dialect → Document → Option α)
    (path : String) : Except Fault α :=
  match DataFormat.ofPath? path with
  | none => .error (.undecodable path .extension)
  | some format => do
    match format.decode? decode (← files.readText path) with
    | some value => .ok value
    | none => .error (.undecodable path .content)

end FileSystem

end ComponentAtlas

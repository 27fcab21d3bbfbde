import ComponentAtlas.Classifier
import ComponentAtlas.Codec.Tree
import ComponentAtlas.Composition
import ComponentAtlas.SourceText.Render
import ComponentAtlas.Yaml.Writer

/-!
# Catalogs

Views on a whole tree: the listing of all prototypes, the styleguide of those that are annotated for
it, the catalog, which is the styleguide without hidden prototypes and with groups, and the detail
view of one prototype.
-/

namespace ComponentAtlas

/-- The directive that puts a prototype into the styleguide. -/
def styleguideDirective : String := "styleguide"

/-- A prototype in the listing of a tree. -/
structure Listing where
  node : Node
  anatomy : Anatomy

/-- A prototype in the styleguide. -/
structure StyleguideObject where
  title : String
  path : String
  description : String
  options : Option Node := none
  group : Option Structure := none

/-- All that the detail view of a prototype shows. -/
structure PrototypeDetail where
  name : String
  source : String
  /-- The definition as a document. -/
  document : String
  node : Node
  anatomy : Anatomy
  outline : List Outline

/-- The text of a scalar: a string itself, any other literal as messages show it. Null stands for no
text, and so does every other node. -/
def Node.scalarText? : Node → Option String
  | .scalar (.string text) => some text
  | .scalar .null => none
  | .scalar literal => some literal.display
  | _ => none

/-- The name without its package, which ends at the first colon. -/
def localName (name : String) : String :=
  match name.toList.dropWhile (· ≠ ':') with
  | [] => name
  | _ :: rest => String.ofList rest

/-- The segments of a name, the last one first. -/
def reversedTitle (name : String) : String :=
  " ".intercalate (name.splitOn ".").reverse

/-- The styleguide entry of a prototype that is annotated with a node. -/
def styleguideObject (name : String) (mark : Node) : StyleguideObject :=
  let field (key : String) : Option String := (mark.get? key).bind Node.scalarText?
  let localPart := localName name
  { title := (field "title").getD (reversedTitle localPart)
    path := (field "path").getD localPart
    description := (field "description").getD ""
    options := mark.get? "options" }

/-- The annotation that puts a prototype into the styleguide. -/
def Node.styleguide? (node : Node) : Option Node :=
  node.metaDirectives?.bind fun directives => directives.find? styleguideDirective

namespace Tree

/-- All prototypes with their anatomy. -/
def listing (tree : Tree) : Keyed Listing :=
  tree.prototypes.mapValues fun node => { node, anatomy := node.anatomy }

/-- The prototypes that are annotated for the styleguide. -/
def styleguide (tree : Tree) : Keyed StyleguideObject :=
  tree.prototypes.filterMap fun (name, node) =>
    node.styleguide?.map fun mark => (name, styleguideObject name mark)

/-- The styleguide without hidden prototypes, each entry with its group. -/
def catalog (tree : Tree) (classifier : Classifier) : Keyed StyleguideObject :=
  (tree.styleguide.filter fun (name, _) => !classifier.isHidden name).map fun (name, object) =>
    (name, { object with group := some (classifier.classify name) })

/-- The detail view of a prototype. -/
def detail (tree : Tree) (indent name : String) : Except Fault PrototypeDetail := do
  let node ← tree.prototype name
  let source ← SourceText.renderPrototype indent name node
  return { name, source, document := Yaml.document node.toValue, node
           anatomy := node.anatomy, outline := node.outline }

end Tree

end ComponentAtlas

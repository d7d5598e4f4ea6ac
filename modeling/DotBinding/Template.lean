import DotBinding.Binding.Basic
import DotBinding.Dot.AttributeText
import DotBinding.Dot.Parser
import DotBinding.Statement

/-!
# Templates

Templates: a graph description put together from texts, bundles of attributes and transforms, read
once and bound to values any number of times.
-/

namespace DotBinding

/-- What a template is put together from. A transform contributes no text. -/
inductive Part where
  | value (v : Value)
  | transform (t : Transform)

namespace Part

/-- What stands in the description for a part. -/
def textPart : Part → Value
  | value v => v
  | transform _ => .text ""

def transform? : Part → Option Transform
  | value _ => none
  | transform t => some t

/-- Texts are taken as they are, and other values are bundles of attributes. -/
def describeValue : Value → Except Dot.AttributeText.Error String
  | .text s => .ok s
  | v => Dot.AttributeText.encode v

/-- The text of the parts one after the other. -/
def describe (parts : List Part) : Except Dot.AttributeText.Error String :=
  (parts.mapM fun p => describeValue p.textPart).map String.join

end Part

/-- Everything that can go wrong between parts and statements. -/
inductive Error where
  | unknownKind (name : String)
  | unknownFormat (name : String)
  | configuration (e : ConfigurationError)
  | attributes (e : Dot.AttributeText.Error)
  | parse (e : Dot.ParseError)
  | bind (e : BindFailure)
  | properties (e : PropertyError)

/-- What stands around the text of a template. -/
inductive TemplateKind where
  | dot
  | graph
  | digraph
  deriving DecidableEq

namespace TemplateKind

def name : TemplateKind → String
  | dot => "dot"
  | graph => "graph"
  | digraph => "digraph"

def all : List TemplateKind :=
  [dot, graph, digraph]

def ofName? (s : String) : Option TemplateKind :=
  all.find? (·.name == s)

/-- The description that a text is the body of. -/
def wrap : TemplateKind → String → String
  | dot, body => body
  | kind, body => kind.name ++ " \x7b " ++ body ++ " \x7d"

end TemplateKind

namespace Error

/-- The name under which an error is reported. -/
def name : Error → String
  | unknownKind _ | unknownFormat _ => "ValueError"
  | configuration .tooLong | attributes .tooLong => "ValueError"
  | configuration _ => "ConfigurationError"
  | attributes _ => "AttributeFormatError"
  | parse _ => "ParseError"
  | bind (.shape _) => "BindingError"
  | bind (.cardinality _) => "CardinalityError"
  | bind (.function (.missingKey _)) => "KeyError"
  | bind (.function (.rejected _)) => "ValueError"
  | bind (.function (.notRecord _)) | bind (.values _) => "AttributeError"
  | bind (.properties e) | properties e => e.name

def message : Error → String
  | unknownKind s =>
    "Unknown template kind " ++ Text.quoted s ++ ". Available: " ++
      ", ".intercalate (TemplateKind.all.map TemplateKind.name)
  | unknownFormat s =>
    "Unknown output format " ++ Text.quoted s ++ ". Available: " ++
      ", ".intercalate (Format.all.map Format.name)
  | configuration e => e.message
  | attributes e => e.message
  | parse e => e.message
  | bind (.shape e) => e.message
  | bind (.cardinality e) => e.message
  | bind (.function e) => e.message
  | bind (.values e) => e.message
  | bind (.properties e) => e.message
  | properties e => e.message

end Error

structure Template where
  description : String
  graphs : List Dot.Graph
  registry : Registry

namespace Template

/-- Puts a template together. The transforms are registered first, then the attributes are written
and the whole is read. -/
def build (kind : TemplateKind) (parts : List Part) : Except Error Template := do
  let registry ← (Registry.ofList (parts.filterMap Part.transform?)).mapError .configuration
  let body ← (Part.describe parts).mapError .attributes
  let description := kind.wrap body
  let graphs ← (Dot.parse description).mapError .parse
  return ⟨description, graphs, registry⟩

/-- Binds the graphs of a template one after the other. -/
def bind {σ : Type} (factory : Factory σ) (values : Value) (t : Template) : Bound σ :=
  .join (t.graphs.map (·.bind factory t.registry values))

def literal (t : Template) : String :=
  "BoundTemplate(" ++ Text.quoted t.description ++ ")"

end Template

/-- The kind of a name. -/
def TemplateKind.named (s : String) : Except Error TemplateKind :=
  (ofName? s).elim (.error (.unknownKind s)) .ok

/-- The format of a name. -/
def Format.named (s : String) : Except Error Format :=
  (ofName? s).elim (.error (.unknownFormat s)) .ok

end DotBinding

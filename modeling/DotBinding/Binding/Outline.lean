import DotBinding.Descriptor
import DotBinding.Dot.Graph

/-!
# Outlines

The outline of a graph description: the declarations that data is bound to. Attribute statements
and the contents of subgraphs are no part of it.
-/

namespace DotBinding

open Dot (NodeDeclaration EdgeDeclaration Attribute)

/-- The texts in a list without repetition, in the order in which they first occur. -/
def firstOccurrences : List String → List String
  | [] => []
  | s :: rest => s :: (firstOccurrences rest).filter (· != s)

namespace Outline

def genericLabel : String :=
  "Node"

def genericType : String :=
  "Relationship"

def defaultIdName : String :=
  "id"

/-- A text, or another one if it is missing or empty. -/
def orElse (s : Option String) (fallback : String) : String :=
  match s with
  | some s => if s = "" then fallback else s
  | none => fallback

/-- Where the records of a name go: the label of those that bring none, the property that holds
their id, and the properties that they are laid over. -/
structure Site where
  name : String
  label : String
  idName : String
  props : Record

/-- The attributes of a declaration other than its id name, as properties. -/
def declaredProps (d : NodeDeclaration) : Record :=
  Record.ofTexts ((d.attributes.filter (·.key != "idName")).map fun a => (a.key, a.value))

/-- The declared label, else the name, else the generic one. -/
def declaredLabel (d : NodeDeclaration) : String :=
  orElse (d.get? "label") (orElse (some d.name) genericLabel)

def declaredIdName (d : NodeDeclaration) : String :=
  orElse (d.get? "idName") defaultIdName

def Site.declared (d : NodeDeclaration) : Site :=
  ⟨d.name, declaredLabel d, declaredIdName d, declaredProps d⟩

/-- The site of a name that only edges mention. -/
def Site.implied (name : String) : Site :=
  ⟨name, orElse (some name) genericLabel, defaultIdName, .empty⟩

/-- A record with the properties of its site under its own. -/
def Site.fill (s : Site) (r : Record) : Record :=
  if s.props.isEmpty then r else s.props.overlay r

def relationshipType (e : EdgeDeclaration) : String :=
  orElse (e.get? "label") genericType

/-- The direction that an edge of a directed graph is given. -/
def declaredDirection (e : EdgeDeclaration) : Direction :=
  match e.get? "dir" with
  | some "forward" => .right
  | some "back" => .left
  | _ => .none

/-- The direction of an edge. In an undirected graph there is none. -/
def direction (directed : Bool) (e : EdgeDeclaration) : Direction :=
  if directed then declaredDirection e else .none

end Outline

structure Outline where
  directed : Bool
  nodes : List NodeDeclaration
  edges : List EdgeDeclaration

namespace Outline

def ofGraph (g : Dot.Graph) : Outline :=
  ⟨g.directed, g.nodeDeclarations, g.edgeDeclarations⟩

/-- The first declaration of a name. -/
def declaration? (o : Outline) (name : String) : Option NodeDeclaration :=
  o.nodes.find? (·.name == name)

/-- The names that edges mention and no declaration does, in the order of first mention. -/
def impliedNames (o : Outline) : List String :=
  firstOccurrences ((o.edges.flatMap (·.chain)).filter fun name => (o.declaration? name).isNone)

/-- Where the ends of an edge find the records of a name: at its first declaration. -/
def site (o : Outline) (name : String) : Site :=
  match o.declaration? name with
  | some d => .declared d
  | none => .implied name

/-- All sites that nodes are made at: the declarations in order, then the implied names. -/
def sites (o : Outline) : List Site :=
  o.nodes.map .declared ++ o.impliedNames.map .implied

/-- The names to resolve, in the order in which their sites are visited. -/
def names (o : Outline) : List String :=
  firstOccurrences (o.sites.map (·.name))

end Outline

end DotBinding

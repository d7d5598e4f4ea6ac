/-!
# Graph descriptions

Graph descriptions: a kind, a name and statements in the order written. Chains are not expanded
and repeated declarations are not merged.
-/

namespace DotBinding.Dot

/-- Whether the edges of a graph carry a direction. -/
inductive GraphKind where
  | graph
  | digraph
  deriving DecidableEq

namespace GraphKind

def text : GraphKind → String
  | graph => "graph"
  | digraph => "digraph"

def directed : GraphKind → Bool
  | graph => false
  | digraph => true

end GraphKind

structure Attribute where
  key : String
  value : String
  deriving DecidableEq

/-- The first value under a key. -/
def Attribute.get? (attributes : List Attribute) (key : String) : Option String :=
  (attributes.find? (·.key == key)).map (·.value)

/-- A node with its attributes. -/
structure NodeDeclaration where
  name : String
  attributes : List Attribute
  deriving DecidableEq

def NodeDeclaration.get? (d : NodeDeclaration) (key : String) : Option String :=
  Attribute.get? d.attributes key

/-- A chain of names, each joined to the next, with its attributes. -/
structure EdgeDeclaration where
  chain : List String
  attributes : List Attribute
  deriving DecidableEq

namespace EdgeDeclaration

def get? (e : EdgeDeclaration) (key : String) : Option String :=
  Attribute.get? e.attributes key

def description (e : EdgeDeclaration) : String :=
  " -> ".intercalate e.chain

end EdgeDeclaration

/-- What an attribute statement sets defaults for. -/
inductive Target where
  | graph
  | node
  | edge
  deriving DecidableEq

def Target.text : Target → String
  | .graph => "graph"
  | .node => "node"
  | .edge => "edge"

inductive Statement where
  | node (declaration : NodeDeclaration)
  | edge (declaration : EdgeDeclaration)
  | attributes (target : Target) (attributes : List Attribute)
  | subgraph (name : String) (statements : List Statement)

structure Graph where
  kind : GraphKind
  name : String
  strict : Bool
  statements : List Statement

namespace Graph

def directed (g : Graph) : Bool :=
  g.kind.directed

/-- The node declarations at the top level, in order. -/
def nodeDeclarations (g : Graph) : List NodeDeclaration :=
  g.statements.filterMap fun
    | .node d => some d
    | _ => none

/-- The edge declarations at the top level, in order. -/
def edgeDeclarations (g : Graph) : List EdgeDeclaration :=
  g.statements.filterMap fun
    | .edge e => some e
    | _ => none

end Graph

end DotBinding.Dot

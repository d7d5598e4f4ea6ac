import DotBinding.PropertyError

/-!
# Descriptors

What binding produces: nodes to create and relationships to create between them.
-/

namespace DotBinding

/-- Which way a relationship points, relative to the order in which its ends are written. -/
inductive Direction where
  | right
  | left
  | none
  deriving DecidableEq

namespace Direction

def text : Direction → String
  | right => "right"
  | left => "left"
  | none => "none"

def all : List Direction :=
  [right, left, none]

def ofText? (s : String) : Option Direction :=
  all.find? (·.text == s)

end Direction

/-- The label of a node, or several labels. -/
inductive Label where
  | one (name : String)
  | many (names : List String)
  deriving DecidableEq

def Label.names : Label → List String
  | one name => [name]
  | many names => names

/-- One end of a relationship: what is needed to find the node that it attaches to. -/
structure Endpoint where
  id : Value
  label : Label
  idName : String

inductive Descriptor where
  | node (label : Label) (idName : String) (props : Record)
  | relationship (left right : Endpoint) (type : String) (direction : Direction)

/-- How nodes and relationships are written in some form. -/
structure Factory (σ : Type) where
  node : Label → String → Record → σ
  relationship : Endpoint → Endpoint → String → Direction → σ
  /-- What keeps a record from being the properties of a node. -/
  refusal? : Record → Option PropertyError

namespace Factory

/-- Keeps what is to be created as it is. -/
def descriptors : Factory Descriptor :=
  ⟨.node, .relationship, fun _ => none⟩

def map {σ τ : Type} (f : σ → τ) (factory : Factory σ) : Factory τ :=
  ⟨fun label idName props => f (factory.node label idName props),
    fun left right type direction => f (factory.relationship left right type direction),
    factory.refusal?⟩

/-- The same nodes and relationships, with fewer records let pass. -/
def refusing {σ : Type} (factory : Factory σ) (refusal? : Record → Option PropertyError) :
    Factory σ :=
  { factory with refusal? := fun props => (factory.refusal? props).or (refusal? props) }

/-- A node with a record as its properties, unless that is refused. -/
def nodeOf {σ : Type} (factory : Factory σ) (label : Label) (idName : String) (props : Record) :
    Except PropertyError σ :=
  match factory.refusal? props with
  | some e => .error e
  | none => .ok (factory.node label idName props)

/-- Writes what is to be created. -/
def write {σ : Type} (factory : Factory σ) : Descriptor → σ
  | .node label idName props => factory.node label idName props
  | .relationship left right type direction => factory.relationship left right type direction

end Factory

end DotBinding

import DotBinding.Cypher.Query

/-!
# Statements

Statements in the formats that they are given out in.
-/

namespace DotBinding

/-- The formats of statements. -/
inductive Format where
  | cypher
  | descriptors
  deriving DecidableEq

namespace Format

def name : Format → String
  | cypher => "cypher"
  | descriptors => "descriptors"

def all : List Format :=
  [cypher, descriptors]

def ofName? (s : String) : Option Format :=
  all.find? (·.name == s)

end Format

inductive Statement where
  | descriptor (d : Descriptor)
  | query (q : Cypher.Query)

/-- How statements of a format are made. -/
def Format.factory : Format → Factory Statement
  | .cypher => Cypher.factory.map .query
  | .descriptors => (Factory.descriptors.map .descriptor).refusing PropertyError.ofKeys?

/-- The properties that a value is. -/
def Format.propertiesOf : Format → Value → Except PropertyError Record
  | .cypher, props => (props.asRecord "items").mapError .notRecord
  | .descriptors, .map entries => .ok ⟨entries⟩
  | .descriptors, props => .error (.notMap props)

/-- A node with a value as its properties. -/
def Format.createNode (format : Format) (label : Label) (idName : String) (props : Value) :
    Except PropertyError Statement :=
  format.propertiesOf props >>= format.factory.nodeOf label idName

namespace Value

mutual

/-- The key of a map as it is given out: as a text. The parts of a tuple are joined by commas. -/
def dumpedKey : Value → String
  | null => "None"
  | bool true => "true"
  | bool false => "false"
  | int n => n.repr
  | float x => if x.isFinite then x.toText else "None"
  | text s => s
  | tuple items => ",".intercalate (dumpedKeys items)
  | list items => literal (list items)
  | map entries => literal (map entries)

def dumpedKeys : List Value → List String
  | [] => []
  | v :: rest => dumpedKey v :: dumpedKeys rest

end

mutual

/-- A value as it is given out: tuples are lists, a number that is not finite is null, and the keys
of maps are texts. -/
def dumped : Value → Value
  | float x => if x.isFinite then float x else null
  | list items | tuple items => list (dumpedItems items)
  | map entries => map (Record.ofEntries (dumpedEntries entries)).entries
  | null => null
  | bool b => bool b
  | int n => int n
  | text s => text s

def dumpedItems : List Value → List Value
  | [] => []
  | v :: rest => dumped v :: dumpedItems rest

def dumpedEntries : List (Value × Value) → List (Value × Value)
  | [] => []
  | (k, v) :: rest => (text (dumpedKey k), dumped v) :: dumpedEntries rest

end

end Value

def Record.dumped (r : Record) : Record :=
  .ofEntries (Value.dumpedEntries r.entries)

def Endpoint.dumped (e : Endpoint) : Endpoint :=
  { e with id := e.id.dumped }

namespace Statement

/-- A statement as it is given out. -/
def dumped : Statement → Statement
  | descriptor (.node label idName props) => descriptor (.node label idName props.dumped)
  | descriptor (.relationship left right type direction) =>
    descriptor (.relationship left.dumped right.dumped type direction)
  | query q => query ⟨q.text, q.parameters.dumped⟩

def fields (entries : List (String × Value)) : Value :=
  .map (entries.map fun e => (.text e.1, e.2))

def labelValue : Label → Value
  | .one name => .text name
  | .many names => .list (names.map .text)

def endpointValue (e : Endpoint) : Value :=
  fields [("id", e.id), ("label", labelValue e.label), ("id_name", .text e.idName)]

/-- A statement as a map. -/
def toValue : Statement → Value
  | descriptor (.node label idName props) =>
    fields [("kind", .text "node"), ("label", labelValue label), ("id_name", .text idName),
      ("props", props.toValue)]
  | descriptor (.relationship left right type direction) =>
    fields [("kind", .text "relationship"), ("left", endpointValue left),
      ("right", endpointValue right), ("type", .text type), ("direction", .text direction.text)]
  | query q => fields [("query", .text q.text), ("parameters", q.parameters.toValue)]

end Statement

end DotBinding

import DotBinding.Descriptor

/-!
# Cypher queries

Nodes and relationships as Cypher queries. Data is passed in parameters, and the names in a query
are quoted. A node with an id is merged on it, so that a second run changes nothing.
-/

namespace DotBinding.Cypher

/-- The stored form of a value. Lists, tuples and maps are stored as their JSON text. -/
def storable : Value → Option Value
  | .null => none
  | .list items => some (.text (Json.toText .plain (.list items)))
  | .tuple items => some (.text (Json.toText .plain (.tuple items)))
  | .map entries => some (.text (Json.toText .plain (.map entries)))
  | v => some v

/-- The stored form of a record. Its nulls are left out. -/
def clean (r : Record) : Record :=
  ⟨r.entries.filterMap fun e => (storable e.2).map (e.1, ·)⟩

/-- What keeps a value from being stored: it would be stored as a JSON text and has none. -/
def storeError? (v : Value) : Option Json.WriteError :=
  if v.isNested then Json.findError? v else none

/-- What keeps a record from being stored. -/
def refusal? (r : Record) : Option Json.WriteError :=
  r.entries.findSome? fun e => storeError? e.2

/-- The stored form of a value that has to be a record. -/
def cleanValue (v : Value) : Except PropertyError Record := do
  let r ← (v.asRecord "items").mapError .notRecord
  match refusal? r with
  | some e => .error (.json e)
  | none => return clean r

/-- A query and the parameters that it expects. -/
structure Query where
  text : String
  parameters : Record

/-- A backtick inside a name is written twice. -/
def escapeName : List Char → List Char
  | [] => []
  | c :: rest => if c = '\x60' then c :: c :: escapeName rest else c :: escapeName rest

/-- A name between backticks. -/
def quote (name : String) : String :=
  String.ofList ('\x60' :: escapeName name.toList ++ ['\x60'])

def labelText (label : Label) : String :=
  String.join (label.names.map fun name => ":" ++ quote name)

/-- A pattern for a node with a label and a property that equals a parameter. -/
def nodePattern (name : String) (label : Label) (idName parameter : String) : String :=
  "(" ++ name ++ labelText label ++ " \x7b" ++ quote idName ++ ": $" ++ parameter ++ "\x7d)"

/-- The properties that a node stores: its label is not stored twice. -/
def stored (props : Record) : Record :=
  ⟨props.entries.filter fun e => !e.1.isText "label"⟩

def nodeQuery (label : Label) (idName : String) (props : Record) : Query :=
  let stored := (clean (stored props)).toValue
  match props.get idName with
  | .null =>
    ⟨"CREATE (n" ++ labelText label ++ ") SET n = $props", ⟨[(.text "props", stored)]⟩⟩
  | id =>
    ⟨"MERGE " ++ nodePattern "n" label idName "id" ++ " SET n += $props",
      ⟨[(.text "id", id), (.text "props", stored)]⟩⟩

def relationshipPattern (type : String) (direction : Direction) : String :=
  let relationship := "[r:" ++ quote type ++ "]"
  match direction with
  | .right => "(a)-" ++ relationship ++ "->(b)"
  | .left => "(a)<-" ++ relationship ++ "-(b)"
  | .none => "(a)-" ++ relationship ++ "-(b)"

def relationshipQuery (left right : Endpoint) (type : String) (direction : Direction) : Query :=
  ⟨"MATCH " ++ nodePattern "a" left.label left.idName "left_id" ++ ", " ++
      nodePattern "b" right.label right.idName "right_id" ++ " MERGE " ++
      relationshipPattern type direction,
    ⟨[(.text "left_id", left.id), (.text "right_id", right.id)]⟩⟩

def factory : Factory Query :=
  ⟨nodeQuery, relationshipQuery, fun props => (refusal? (stored props)).map .json⟩

end DotBinding.Cypher

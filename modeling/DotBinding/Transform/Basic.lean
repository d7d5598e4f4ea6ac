import DotBinding.Transform.Traced
import DotBinding.Value.Literal
import DotBinding.Value.Record

/-!
# Transforms

Transforms: functions that make the records of a node out of a bundle of values.
-/

namespace DotBinding

/-- Why a record function gave no result. -/
inductive Failure where
  | missingKey (key : String)
  | rejected (message : String)
  | notRecord (e : NotRecord)
  deriving DecidableEq

def Failure.message : Failure → String
  | missingKey key => Text.quoted key
  | rejected message => message
  | notRecord e => e.message

/-- A function on values with the name that it is known by. -/
structure RecordFunction where
  name : String
  apply : Value → Except Failure Value

namespace RecordFunction

def literal (f : RecordFunction) : String :=
  "<fn " ++ f.name ++ ">"

def call (f : RecordFunction) (v : Value) : Traced Failure Value :=
  ⟨[⟨f.name, v⟩], f.apply v⟩

/-- Results that are lists give their items to the list of results. -/
def flatten (results : List Value) : List Value :=
  results.flatMap fun v => v.items?.getD [v]

/-- What a function makes of the value of a node. A list is given to it item by item, and null not
at all. -/
def applyTo (f : RecordFunction) : Value → Traced Failure Value
  | .null => .pure .null
  | .list items | .tuple items => (Traced.each f.call items).map fun vs => .list (flatten vs)
  | v => f.call v

end RecordFunction

inductive Transform where
  /-- Reads the values of one node. -/
  | ofNode (name : String) (f : RecordFunction)
  /-- Reads the whole bundle; the tag says which node the records are for. -/
  | ofBundle (tag : Option Value) (f : RecordFunction)

/-- Why functions cannot be used as transforms. -/
inductive ConfigurationError where
  | unnamedNode (given : Value)
  | noFunction (name : String) (given : Value)
  | untagged (transform : String)
  | duplicate (name : String)
  /-- What was given cannot be written, and so not be reported. -/
  | tooLong

def ConfigurationError.message : ConfigurationError → String
  | unnamedNode given => "using() needs a non-empty node name, got " ++ given.literal
  | noFunction name given =>
    "using(" ++ Text.quoted name ++ ") expects a callable, got " ++ given.literal
  | untagged transform =>
    "Functions passed into a graph must be wrapped with using() and given a name (got " ++
      transform ++ ")"
  | duplicate name =>
    "More than one function was registered for the node " ++ Text.quoted name
  | tooLong => Value.tooLongMessage

/-- An error that shows a value, if the value can be written. -/
def ConfigurationError.showing (v : Value) (e : ConfigurationError) : ConfigurationError :=
  if v.isWritable then e else tooLong

namespace Transform

/-- The transform of a node by a function. The name has to be a text with something in it; what
stands in the function's place may be another value, which is refused. -/
def forNode (name : Value) (f : RecordFunction ⊕ Value) : Except ConfigurationError Transform :=
  match name with
  | .text s =>
    if s = "" then .error (.unnamedNode name)
    else
      match f with
      | .inl f => .ok (ofNode s f)
      | .inr v => .error (.showing v (.noFunction s v))
  | _ => .error (.showing name (.unnamedNode name))

/-- The node that a transform makes records for. An empty text and a tag that is no text name
none. -/
def name? : Transform → Option String
  | ofNode s _ | ofBundle (some (.text s)) _ => if s = "" then none else some s
  | ofBundle _ _ => none

def literal : Transform → String
  | ofNode s f => "NamedTransform(" ++ Text.quoted s ++ ", " ++ f.name ++ ")"
  | ofBundle _ f => f.literal

/-- What a transform makes of a bundle of values. The value of a node is looked up in it, for which
it has to be a record. -/
def run (values : Value) : Transform → Traced Failure Value
  | ofBundle _ f => f.call values
  | ofNode s f => (Traced.ofExcept ((values.entry s).mapError .notRecord)).bind f.applyTo

end Transform

/-- Transforms under distinct names, in the order registered. -/
structure Registry where
  entries : List (String × Transform)

namespace Registry

def empty : Registry :=
  ⟨[]⟩

def names (r : Registry) : List String :=
  r.entries.map (·.1)

def find? (r : Registry) (name : String) : Option Transform :=
  r.entries.lookup name

/-- Adds a transform under its name, which has to be new. -/
def register (r : Registry) (t : Transform) : Except ConfigurationError Registry :=
  match t.name? with
  | none => .error (.untagged t.literal)
  | some name =>
    if r.names.contains name then .error (.duplicate name) else .ok ⟨r.entries ++ [(name, t)]⟩

/-- The registry of a list of transforms, or the fault of the first one that does not fit. -/
def ofList (ts : List Transform) : Except ConfigurationError Registry :=
  ts.foldlM register empty

end Registry

end DotBinding

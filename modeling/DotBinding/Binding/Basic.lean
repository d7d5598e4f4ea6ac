import DotBinding.Binding.Outline
import DotBinding.Binding.Output
import DotBinding.Transform.Basic
import DotBinding.Value.Literal

/-!
# Binding

Binds the outline of a graph to values. First every name is resolved once, in the order in which
the sites are visited. Then the nodes of all sites are written, and after them the relationships
of all edges.
-/

namespace DotBinding

open Dot (EdgeDeclaration)

/-- What keeps the node of a record from being made: its label cannot be written, or the factory
refuses it. -/
def Factory.rejection? {σ : Type} (factory : Factory σ) (r : Record) : Option PropertyError :=
  if (r.get "label").isWritable then factory.refusal? r else some .label

theorem Factory.rejection?_eq_none_iff {σ : Type} {factory : Factory σ} {r : Record} :
    factory.rejection? r = none ↔
      (r.get "label").isWritable = true ∧ factory.refusal? r = none := by
  rw [rejection?]
  split
  · next h => simp [h]
  · next h => simp [h]

namespace Binding

/-- The value of a name: what its transform makes of the bundle, or else what the bundle holds under
it. -/
def valueOf (registry : Registry) (values : Value) (name : String) : Traced BindFailure Value :=
  match registry.find? name with
  | some t => (t.run values).mapError .function
  | none => .ofExcept ((values.entry name).mapError .values)

/-- The records that a value stands for, none if it is absent. -/
def recordsOf (name : String) (v : Value) : Except BindFailure (List Record) :=
  match Resolution.ofValue name v with
  | .ok r => .ok (r.elim [] Resolution.records)
  | .error e => .error (.shape e)

/-- Lets records pass that can be the properties of nodes. -/
def writable (refusal? : Record → Option PropertyError) (records : List Record) :
    Except BindFailure (List Record) :=
  match records.findSome? refusal? with
  | some e => .error (.properties e)
  | none => .ok records

/-- The records of a name. A record whose node cannot be made is found out at once: the node would
be made next, and what is declared for it changes nothing about this. -/
def resolve (refusal? : Record → Option PropertyError) (registry : Registry) (values : Value)
    (name : String) : Traced BindFailure (List Record) :=
  (valueOf registry values name).check fun v => recordsOf name v >>= writable refusal?

/-- The records of names resolved one after the other, the calls made for them, and the name at
which that stopped, if it did. -/
structure Lookup where
  found : List (String × List Record)
  calls : List Call
  stop? : Option (String × BindFailure)

def lookUp (refusal? : Record → Option PropertyError) (registry : Registry) (values : Value) :
    List String → Lookup
  | [] => ⟨[], [], none⟩
  | name :: rest =>
    let resolved := resolve refusal? registry values name
    match resolved.result with
    | .error e => ⟨[], resolved.calls, some (name, e)⟩
    | .ok records =>
      let more := lookUp refusal? registry values rest
      ⟨(name, records) :: more.found, resolved.calls ++ more.calls, more.stop?⟩

/-- A site with the records found for its name, laid over its properties. -/
structure Place where
  site : Outline.Site
  records : List Record

def placeAt (found : List (String × List Record)) (site : Outline.Site) : Place :=
  ⟨site, ((found.lookup site.name).getD []).map site.fill⟩

def Place.isEmpty (p : Place) : Bool :=
  p.records.isEmpty

/-- Whether an item of a list of labels counts. -/
def isLabel (v : Value) : Bool :=
  !(v.isNull || v.isText "")

/-- The label that a record brings: a value's text, or one text for each item of a list. Where it
cannot be written there are no nodes to be labelled. -/
def ownLabel? (r : Record) : Option Label :=
  match r.get "label" with
  | .null => none
  | .text s => if s = "" then none else some (.one s)
  | .list items | .tuple items =>
    match items.filter isLabel with
    | [] => none
    | labels => some (.many (labels.map Value.display))
  | v => some (.one v.display)

def labelAt (site : Outline.Site) (r : Record) : Label :=
  (ownLabel? r).getD (.one site.label)

def endpointAt (site : Outline.Site) (r : Record) : Endpoint :=
  ⟨r.get site.idName, labelAt site r, site.idName⟩

variable {σ : Type}

/-- One node for each record of a place. -/
def nodesAt (factory : Factory σ) (p : Place) : Output σ :=
  if p.isEmpty then .gaps [.missingNode p.site.name]
  else .ofStatements (p.records.map fun r => factory.node (labelAt p.site r) p.site.idName r)

/-- A gap for an end without an id. -/
def idGap (e : EdgeDeclaration) (site : Outline.Site) (endpoint : Endpoint) : List Diagnostic :=
  if endpoint.id.isNull then [.missingId site.name e.description site.idName] else []

/-- The relationship of an edge from one record to another. -/
def relate (factory : Factory σ) (directed : Bool) (e : EdgeDeclaration) (left right : Place)
    (l r : Record) : Output σ :=
  let leftEnd := endpointAt left.site l
  let rightEnd := endpointAt right.site r
  ⟨[factory.relationship leftEnd rightEnd (Outline.relationshipType e)
      (Outline.direction directed e)],
    idGap e left.site leftEnd ++ idGap e right.site rightEnd, none⟩

/-- The relationships between two neighbours of a chain: every record of one side to every record of
the other, unless both sides are several. -/
def relateAll (factory : Factory σ) (directed : Bool) (e : EdgeDeclaration) (left right : Place) :
    Output σ :=
  if 1 < left.records.length ∧ 1 < right.records.length then
    .fail (.cardinality ⟨left.site.name, right.site.name, e.chain, left.records.length,
      right.records.length⟩)
  else
    .join (left.records.flatMap fun l =>
      right.records.map fun r => relate factory directed e left right l r)

/-- The neighbours in a chain, up to the first place without records. -/
def neighbours : List Place → List (Place × Place)
  | left :: right :: rest =>
    if left.isEmpty || right.isEmpty then [] else (left, right) :: neighbours (right :: rest)
  | _ => []

def endpointGaps (e : EdgeDeclaration) (places : List Place) : List Diagnostic :=
  (places.filter (·.isEmpty)).map fun p => .missingEndpoint p.site.name e.description

/-- The relationships of an edge whose names are at the given places. -/
def edgeAt (factory : Factory σ) (directed : Bool) (e : EdgeDeclaration) (places : List Place) :
    Output σ :=
  (Output.gaps (endpointGaps e places)).andThen <|
    if (places.filter (!·.isEmpty)).length < 2 then .gaps [.shortEdge e.description]
    else .join ((neighbours places).map fun p => relateAll factory directed e p.1 p.2)

def nodes (factory : Factory σ) (found : List (String × List Record)) (sites : List Outline.Site) :
    Output σ :=
  .join (sites.map fun s => nodesAt factory (placeAt found s))

def relationships (factory : Factory σ) (found : List (String × List Record)) (o : Outline) :
    Output σ :=
  .join (o.edges.map fun e =>
    edgeAt factory o.directed e (e.chain.map fun name => placeAt found (o.site name)))

end Binding

/-- The output of a binding and the calls of record functions made for it. -/
structure Bound (σ : Type) where
  output : Output σ
  calls : List Call

namespace Bound

variable {σ : Type}

def empty : Bound σ :=
  ⟨.empty, []⟩

/-- One binding behind another, which is not made if the first one failed. -/
def andThen (a b : Bound σ) : Bound σ :=
  match a.output.failure? with
  | some _ => a
  | none => ⟨a.output.andThen b.output, a.calls ++ b.calls⟩

def join (parts : List (Bound σ)) : Bound σ :=
  parts.foldr andThen empty

end Bound

namespace Outline

/-- Binds an outline to a bundle of values. If a name cannot be resolved, the sites before its
first one have been visited. -/
def bind {σ : Type} (factory : Factory σ) (registry : Registry) (values : Value) (o : Outline) :
    Bound σ :=
  let lookup := Binding.lookUp factory.rejection? registry values.orEmpty o.names
  match lookup.stop? with
  | some (name, e) =>
    let visited := o.sites.takeWhile (·.name != name)
    ⟨(Binding.nodes factory lookup.found visited).andThen (.fail e), lookup.calls⟩
  | none =>
    ⟨(Binding.nodes factory lookup.found o.sites).andThen
      (Binding.relationships factory lookup.found o), lookup.calls⟩

end Outline

namespace Dot.Graph

variable {σ : Type}

def bind (factory : Factory σ) (registry : Registry) (values : Value) (g : Graph) : Bound σ :=
  (Outline.ofGraph g).bind factory registry values

/-- Binds graphs one after the other and adds the gaps of each to a log. A binding that fails ends
this and leaves no gap of its own in the log. -/
def bindInto (factory : Factory σ) (registry : Registry) (values : Value)
    (log : List Diagnostic) : List Graph → List Diagnostic × Traced BindFailure (List σ)
  | [] => (log, .pure [])
  | g :: rest =>
    let bound := g.bind factory registry values
    match bound.output.result with
    | .error e => (log, ⟨bound.calls, .error e⟩)
    | .ok (statements, gaps) =>
      let (log, more) := bindInto factory registry values (log ++ gaps) rest
      (log, ⟨bound.calls ++ more.calls, more.result.map (statements ++ ·)⟩)

end Dot.Graph

end DotBinding

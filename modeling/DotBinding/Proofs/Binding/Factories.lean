import DotBinding.Proofs.Binding.Lookup

/-!
# Factories

A binding hands nodes and relationships to its factory one by one and never looks at what the
factory makes of them. Where the statements of one factory are those of another, taken through a
function, their bindings differ by this function alone: they make the same calls, report the same
gaps and fail at the same place. The direction of an edge is handed over like everything else, so
this also compares a directed graph with an undirected one.
-/

namespace DotBinding

open Dot (EdgeDeclaration)

namespace Bound

variable {σ τ : Type}

/-- A binding with each of its statements taken through a function. -/
def map (f : σ → τ) (b : Bound σ) : Bound τ :=
  ⟨b.output.map f, b.calls⟩

end Bound

/-- Whether a factory writes what another one writes, taken through a function, where the edges
given to the two may belong to graphs of different kinds. -/
structure Factory.Translates {σ τ : Type} (f : σ → τ) (factory : Factory σ) (directed : Bool)
    (factory' : Factory τ) (directed' : Bool) : Prop where
  node (label : Label) (idName : String) (props : Record) :
    factory'.node label idName props = f (factory.node label idName props)
  relationship (left right : Endpoint) (type : String) (e : EdgeDeclaration) :
    factory'.relationship left right type (Outline.direction directed' e) =
      f (factory.relationship left right type (Outline.direction directed e))

lemma Factory.translates_write {σ : Type} (factory : Factory σ) (directed : Bool) :
    Translates factory.write .descriptors directed factory directed :=
  ⟨fun _ _ _ => rfl, fun _ _ _ _ => rfl⟩

namespace Binding

variable {σ τ : Type} {f : σ → τ} {factory : Factory σ} {factory' : Factory τ}
  {directed directed' : Bool}

lemma nodesAt_map (h : factory.Translates f directed factory' directed') (p : Place) :
    nodesAt factory' p = (nodesAt factory p).map f := by
  unfold nodesAt
  split
  · rfl
  · simp only [Output.map, Output.ofStatements, List.map_map, Function.comp_def, h.node]

lemma relateAll_map (h : factory.Translates f directed factory' directed') (e : EdgeDeclaration)
    (left right : Place) :
    relateAll factory' directed' e left right =
      (relateAll factory directed e left right).map f := by
  unfold relateAll
  split
  · rfl
  · rw [Output.map_join, List.map_flatMap]
    simp only [List.map_map, Function.comp_def, relate, Output.map, List.map_cons, List.map_nil,
      h.relationship]

lemma edgeAt_map (h : factory.Translates f directed factory' directed') (e : EdgeDeclaration)
    (places : List Place) :
    edgeAt factory' directed' e places = (edgeAt factory directed e places).map f := by
  unfold edgeAt
  rw [Output.map_andThen, Output.map_gaps]
  split
  · rfl
  · rw [Output.map_join, List.map_map]
    congr 3
    funext link
    exact relateAll_map h e link.1 link.2

lemma nodes_map (h : factory.Translates f directed factory' directed')
    (found : List (String × List Record)) (sites : List Outline.Site) :
    nodes factory' found sites = (nodes factory found sites).map f := by
  rw [nodes, nodes, Output.map_join, List.map_map]
  congr 2
  funext s
  exact nodesAt_map h _

end Binding

namespace Outline

open Binding

variable {σ τ : Type} {f : σ → τ} {factory : Factory σ} {factory' : Factory τ}
  {registry registry' : Registry} {values values' : Value} {o : Outline} {directed' : Bool}

/-- Bindings that find the same records differ only by what their factories write. -/
theorem bind_map (h : factory.Translates f o.directed factory' directed')
    (hfound : lookUp factory'.rejection? registry' values'.orEmpty o.names =
      lookUp factory.rejection? registry values.orEmpty o.names) :
    Outline.bind factory' registry' values' { o with directed := directed' } =
      (o.bind factory registry values).map f := by
  have hedges (found : List (String × List Record)) :
      relationships factory' found { o with directed := directed' } =
        (relationships factory found o).map f := by
    rw [relationships, relationships, Output.map_join, List.map_map]
    congr 2
    funext e
    exact edgeAt_map h e _
  unfold bind
  have hnames : ({ o with directed := directed' } : Outline).names = o.names := rfl
  have hsites : ({ o with directed := directed' } : Outline).sites = o.sites := rfl
  simp only [hnames, hsites, hfound]
  cases (lookUp factory.rejection? registry values.orEmpty o.names).stop? with
  | some stop => simp only [nodes_map h, Bound.map, Output.map_andThen, Output.map_fail]
  | none => simp only [nodes_map h, hedges, Bound.map, Output.map_andThen]

/-- Whatever a factory lets pass can be kept as it is. -/
lemma rejection?_descriptors {r : Record} (h : factory.rejection? r = none) :
    Factory.descriptors.rejection? r = none :=
  Factory.rejection?_eq_none_iff.mpr ⟨(Factory.rejection?_eq_none_iff.mp h).1, rfl⟩

/-- A binding that refuses no record writes what is to be created, one by one. -/
theorem bind_write
    (h : (lookUp factory.rejection? registry values.orEmpty o.names).stop? = none) :
    (o.bind factory registry values).output =
      (o.bind .descriptors registry values).output.map factory.write :=
  congrArg Bound.output
    (bind_map (factory.translates_write o.directed)
      (lookUp_eq_of_stop?_eq_none (fun _ => rejection?_descriptors) h).symm)

end Outline

end DotBinding

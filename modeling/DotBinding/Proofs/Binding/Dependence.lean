import DotBinding.Proofs.Binding.Calls
import DotBinding.Proofs.Binding.Factories

/-!
# What a binding depends on

A binding sees nothing of a graph but its declarations at the top level, and nothing of the data but
the values and the transforms of the names that these mention. The name of the graph, the order in
which nodes and edges alternate, attribute statements, subgraphs and all other data make no
difference, not even to errors. The kind of the graph reaches the statements by their direction
only.
-/

namespace DotBinding

namespace Binding

variable {refusal? : Record → Option PropertyError} {registry registry' : Registry}
  {values values' : Value} {bundle : Record} {name : String}

/-- The value of a name is made of what is registered for it and what the bundle holds under it. -/
lemma valueOf_congr (hown : registry.ReadsOwn)
    (hfind : registry'.find? name = registry.find? name)
    (hentry : values'.entry name = values.entry name) :
    valueOf registry' values' name = valueOf registry values name := by
  unfold valueOf
  rw [hfind]
  cases ht : registry.find? name with
  | none => simp only [hentry]
  | some t =>
    obtain ⟨f, rfl⟩ := hown.of_find? ht
    simp only [Transform.run, hentry]

lemma resolve_congr
    (h : valueOf registry' values' name = valueOf registry values name) :
    resolve refusal? registry' values' name = resolve refusal? registry values name := by
  unfold resolve
  rw [h]

/-- What a bundle holds under a name is all that a name without a transform is resolved by. -/
lemma resolve_of_find?_eq_none (h : registry.find? name = none) :
    resolve refusal? registry bundle.toValue name =
      ⟨[], recordsOf name (bundle.get name) >>= writable refusal?⟩ := by
  unfold resolve valueOf
  rw [h]
  rfl

/-- A name with a transform is resolved by what its function makes of the value under it. -/
lemma resolve_of_find?_eq_ofNode {f : RecordFunction}
    (h : registry.find? name = some (.ofNode name f)) :
    resolve refusal? registry bundle.toValue name =
      ((f.applyTo (bundle.get name)).mapError .function).check fun v =>
        recordsOf name v >>= writable refusal? := by
  unfold resolve valueOf
  rw [h]
  rfl

end Binding

/-- A relationship without its direction, and a node as it is. -/
def Descriptor.undirected : Descriptor → Descriptor
  | .node label idName props => .node label idName props
  | .relationship left right type _ => .relationship left right type .none

namespace Factory

variable {σ : Type}

/-- Keeps what a factory is given and refuses what it refuses. -/
def recorder (factory : Factory σ) : Factory Descriptor :=
  descriptors.refusing factory.refusal?

lemma translates_write_recorder (factory : Factory σ) (directed : Bool) :
    factory.recorder.Translates factory.write directed factory directed :=
  ⟨fun _ _ _ => rfl, fun _ _ _ _ => rfl⟩

/-- In an undirected graph the direction of an edge is not looked at. -/
lemma translates_write_undirected (factory : Factory σ) (directed : Bool) :
    factory.recorder.Translates (fun d => factory.write d.undirected) directed factory false :=
  ⟨fun _ _ _ => rfl, fun _ _ _ _ => rfl⟩

end Factory

namespace Dot.Graph

open Binding

variable {σ : Type}

/-- Bundles that differ under one name only are bound alike if this name is resolved alike. -/
lemma bind_eq_of_resolve (factory : Factory σ) (g : Dot.Graph) {registry : Registry}
    (hown : registry.ReadsOwn) {name : String} {bundle bundle' : Record}
    (hother : ∀ other, other ≠ name → bundle'.get other = bundle.get other)
    (hname : resolve factory.rejection? registry bundle'.toValue name =
      resolve factory.rejection? registry bundle.toValue name) :
    g.bind factory registry bundle'.toValue = g.bind factory registry bundle.toValue := by
  have hfound :
      lookUp factory.rejection? registry bundle'.toValue.orEmpty (Outline.ofGraph g).names =
        lookUp factory.rejection? registry bundle.toValue.orEmpty (Outline.ofGraph g).names := by
    simp only [Record.toValue, Value.orEmpty_map]
    apply lookUp_congr
    intro other _
    by_cases h : other = name
    · rw [h]
      exact hname
    · exact resolve_congr (valueOf_congr hown rfl (congrArg Except.ok (hother other h)))
  unfold bind Outline.bind
  rw [hfound]

/-- What a binding depends on. Two graphs of one kind with the same declarations at the top level,
bound with transforms and values that agree on the names mentioned there, give the same statements,
gaps and calls, or fail with the same error. If one of them is undirected, whatever the other is,
then they are given the same nodes and relationships, apart from the direction, which is none. -/
theorem bind_eq_of_agree (factory : Factory σ) {g g' : Dot.Graph}
    (hnodes : g'.nodeDeclarations = g.nodeDeclarations)
    (hedges : g'.edgeDeclarations = g.edgeDeclarations) {registry registry' : Registry}
    (hown : registry.ReadsOwn) {values values' : Value}
    (hagree : ∀ name ∈ g.mentionedNames, registry'.find? name = registry.find? name ∧
      values'.orEmpty.entry name = values.orEmpty.entry name) :
    (g'.kind = g.kind → g'.bind factory registry' values' = g.bind factory registry values) ∧
    (g'.kind = .graph →
      g.bind factory registry values =
        (g.bind factory.recorder registry values).map factory.write ∧
      g'.bind factory registry' values' =
        (g.bind factory.recorder registry values).map fun d => factory.write d.undirected) := by
  have houtline : Outline.ofGraph g' = { Outline.ofGraph g with directed := g'.directed } := by
    rw [Outline.ofGraph, hnodes, hedges]
    rfl
  have hfound : lookUp factory.rejection? registry' values'.orEmpty (Outline.ofGraph g).names =
      lookUp factory.rejection? registry values.orEmpty (Outline.ofGraph g).names := by
    rw [names_ofGraph]
    apply lookUp_congr
    intro name hname
    obtain ⟨hfind, hentry⟩ := hagree name hname
    exact resolve_congr (valueOf_congr hown hfind hentry)
  have hrecorded : g.bind factory registry values =
      (g.bind factory.recorder registry values).map factory.write :=
    Outline.bind_map (factory.translates_write_recorder (Outline.ofGraph g).directed) rfl
  refine ⟨fun hkind => ?_, fun hkind => ⟨hrecorded, ?_⟩⟩
  · have hdirected : g'.directed = (Outline.ofGraph g).directed := by
      rw [directed, hkind]
      rfl
    rw [hrecorded, bind, houtline, hdirected]
    exact Outline.bind_map (factory.translates_write_recorder _) hfound
  · have hdirected : g'.directed = false := by
      rw [directed, hkind]
      rfl
    rw [bind, houtline, hdirected]
    exact Outline.bind_map (factory.translates_write_undirected _) hfound

/-- An edge to two records, and the same among statements that are not bound. -/
def bareGraph : Dot.Graph :=
  ⟨.digraph, "", false, [.node ⟨"A", []⟩, .edge ⟨["A", "B"], [⟨"dir", "forward"⟩]⟩]⟩

def crowdedGraph (kind : GraphKind) : Dot.Graph :=
  ⟨kind, "G", true,
    [.subgraph "s" [.node ⟨"C", []⟩, .edge ⟨["C", "A"], []⟩],
      .edge ⟨["A", "B"], [⟨"dir", "forward"⟩]⟩, .attributes .node [⟨"label", "X"⟩],
      .node ⟨"A", []⟩]⟩

/-- Data for the mentioned names, and a text and a function that fails under another name. -/
def bareValues : Value :=
  .map [(.text "A", .map [(.text "id", .int 1)]),
    (.text "B", .list [.map [(.text "id", .int 2)], .map [(.text "id", .int 3)]])]

def crowdedValues : Value :=
  .map [(.text "C", .text "x"),
    (.text "B", .list [.map [(.text "id", .int 2)], .map [(.text "id", .int 3)]]),
    (.text "A", .map [(.text "id", .int 1)])]

def keepB : String × Transform :=
  ("B", .ofNode "B" ⟨"keep", .ok⟩)

def failC : String × Transform :=
  ("C", .ofNode "C" ⟨"fail", fun _ => .error (.rejected "no")⟩)

/-- Nothing of what was added is seen, and the undirected graph has no directions. -/
theorem bind_crowdedGraph :
    (∀ kind, (crowdedGraph kind).nodeDeclarations = bareGraph.nodeDeclarations ∧
      (crowdedGraph kind).edgeDeclarations = bareGraph.edgeDeclarations) ∧
    Registry.ReadsOwn ⟨[keepB]⟩ ∧
    (∀ name ∈ bareGraph.mentionedNames,
      Registry.find? ⟨[failC, keepB]⟩ name = Registry.find? ⟨[keepB]⟩ name ∧
        crowdedValues.orEmpty.entry name = bareValues.orEmpty.entry name) ∧
    (crowdedGraph .digraph).bind .descriptors ⟨[failC, keepB]⟩ crowdedValues =
      bareGraph.bind .descriptors ⟨[keepB]⟩ bareValues ∧
    ((crowdedGraph .graph).bind .descriptors ⟨[failC, keepB]⟩ crowdedValues).output.statements[4]? =
      some (.relationship ⟨.int 1, .one "A", "id"⟩ ⟨.int 3, .one "B", "id"⟩
        "Relationship" .none) := by
  have hdeclarations : ∀ kind, (crowdedGraph kind).nodeDeclarations = bareGraph.nodeDeclarations ∧
      (crowdedGraph kind).edgeDeclarations = bareGraph.edgeDeclarations := fun _ => ⟨rfl, rfl⟩
  have hown : Registry.ReadsOwn ⟨[keepB]⟩ := by
    intro entry hentry
    rw [List.mem_singleton.1 hentry]
    exact ⟨_, rfl⟩
  have hagree : ∀ name ∈ bareGraph.mentionedNames,
      Registry.find? ⟨[failC, keepB]⟩ name = Registry.find? ⟨[keepB]⟩ name ∧
        crowdedValues.orEmpty.entry name = bareValues.orEmpty.entry name := by
    have hnames : bareGraph.mentionedNames = ["A", "B"] := rfl
    rw [hnames]
    intro name hname
    rcases List.mem_cons.1 hname with rfl | hname
    · exact ⟨rfl, rfl⟩
    · rw [List.mem_singleton.1 hname]
      exact ⟨rfl, rfl⟩
  have h (kind : GraphKind) := bind_eq_of_agree .descriptors (hdeclarations kind).1
    (hdeclarations kind).2 hown hagree
  refine ⟨hdeclarations, hown, hagree, (h .digraph).1 rfl, ?_⟩
  rw [((h .graph).2 rfl).2]
  rfl

end Dot.Graph

end DotBinding

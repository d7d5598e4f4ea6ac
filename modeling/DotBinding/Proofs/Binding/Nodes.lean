import DotBinding.Proofs.Binding.Endpoints
import DotBinding.Proofs.Binding.Failures
import DotBinding.Proofs.Value.Overlay

/-!
# The nodes of a binding

All nodes of a binding stand in front of its relationships, and they are just the records of the
names that it mentions: declaration by declaration, and then name by name for those that only edges
mention, each of them once. A node of a declaration has the declared keys in front, with the values
of the record where it has them, and behind them whatever else the record holds.
-/

namespace DotBinding

open Dot (NodeDeclaration EdgeDeclaration)

namespace Dot

namespace Attribute

lemma lookup_map (attributes : List Attribute) (key : String) :
    (attributes.map fun a => (a.key, a.value)).lookup key = get? attributes key := by
  induction attributes with
  | nil => rfl
  | cons a rest ih =>
    rw [List.map_cons, List.lookup_cons, get?, List.find?_cons, Bool.beq_comm]
    cases a.key == key with
    | true => rfl
    | false => exact ih

lemma get?_filter (attributes : List Attribute) {key out : String} (h : key ≠ out) :
    get? (attributes.filter (·.key != out)) key = get? attributes key := by
  rw [get?, get?, List.find?_filter]
  congr 2
  funext a
  by_cases hkey : a.key = key
  · simp [hkey, h]
  · simp [hkey]

end Attribute

namespace NodeDeclaration

/-- The declared keys other than that of the id name, each where it occurs first. -/
def propertyKeys (d : NodeDeclaration) : List String :=
  firstOccurrences ((d.attributes.map (·.key)).filter (· != "idName"))

/-- The last value under a key. -/
def last? (d : NodeDeclaration) (key : String) : Option String :=
  Attribute.get? d.attributes.reverse key

/-- The properties of a node for a record: the declared keys, each with the value of the record, or
else with the last one declared, and then the other entries of the record. -/
def properties (d : NodeDeclaration) (r : Record) : Record :=
  ⟨Record.textEntries d.propertyKeys (fun key =>
      (r.get? key).getD (.text ((d.last? key).getD ""))) ++ Record.beside d.propertyKeys r⟩

lemma declaredProps_eq (d : NodeDeclaration) :
    Outline.declaredProps d =
      ⟨Record.textEntries d.propertyKeys fun key => .text ((d.last? key).getD "")⟩ := by
  rw [Outline.declaredProps, Record.ofTexts_eq, List.map_map]
  have hkeys : (d.attributes.filter (·.key != "idName")).map
      ((fun p : String × String => p.1) ∘ fun a => (a.key, a.value)) =
        (d.attributes.map (·.key)).filter (· != "idName") := by
    rw [List.filter_map]
    rfl
  rw [hkeys]
  congr 1
  apply Record.textEntries_congr
  intro key hkey
  rw [mem_firstOccurrences, List.mem_filter, bne_iff_ne] at hkey
  rw [← List.map_reverse, ← List.filter_reverse, Attribute.lookup_map,
    Attribute.get?_filter _ hkey.2]
  rfl

lemma fill_declared (d : NodeDeclaration) {r : Record} (h : r.Distinct) :
    (Outline.Site.declared d).fill r = d.properties r := by
  have hprops : (Outline.Site.declared d).props =
      ⟨Record.textEntries d.propertyKeys fun key => .text ((d.last? key).getD "")⟩ :=
    d.declaredProps_eq
  rw [Outline.Site.fill, hprops]
  split
  · next hempty =>
    have hkeys : d.propertyKeys = [] := by
      simpa [Record.isEmpty, Record.textEntries] using hempty
    simp [properties, hkeys, Record.textEntries, Record.beside]
  · exact Record.overlay_textEntries (nodup_firstOccurrences _) h _

/-- The node for a record of a declared name. -/
def node (d : NodeDeclaration) (r : Record) : Descriptor :=
  .node (Binding.labelAt (.declared d) (d.properties r)) (Outline.declaredIdName d) (d.properties r)

end NodeDeclaration

end Dot

/-- The node for a record of a name that is not declared. -/
def Descriptor.implied (name : String) (r : Record) : Descriptor :=
  .node (Binding.labelAt (.implied name) r) "id" r

namespace Dot.Graph

open Binding

variable {σ : Type}

/-- The nodes that the records of all names become. -/
def createdNodes (registry : Registry) (values : Value) (g : Dot.Graph) : List Descriptor :=
  (g.nodeDeclarations.flatMap fun d =>
    (valueAt registry values.orEmpty d.name).records.map d.node) ++
  g.undeclaredNames.flatMap fun name =>
    (valueAt registry values.orEmpty name).records.map (Descriptor.implied name)

/-- A graph without attribute statements and subgraphs. -/
def declarationsOnly (g : Dot.Graph) : Dot.Graph :=
  { g with statements := g.statements.filter fun
      | .node _ | .edge _ => true
      | _ => false }

lemma ofGraph_declarationsOnly (g : Dot.Graph) :
    Outline.ofGraph g.declarationsOnly = Outline.ofGraph g := by
  have hnodes : g.declarationsOnly.nodeDeclarations = g.nodeDeclarations := by
    rw [nodeDeclarations, declarationsOnly, List.filterMap_filter]
    apply List.filterMap_congr
    intro s _
    cases s <;> rfl
  have hedges : g.declarationsOnly.edgeDeclarations = g.edgeDeclarations := by
    rw [edgeDeclarations, declarationsOnly, List.filterMap_filter]
    apply List.filterMap_congr
    intro s _
    cases s <;> rfl
  rw [Outline.ofGraph, hnodes, hedges]
  rfl

lemma nodeStatements_declared {registry : Registry} {values : Value} {d : NodeDeclaration}
    (h : ∀ r ∈ (valueAt registry values d.name).records, r.Distinct) :
    Binding.nodeStatements .descriptors (placeIn registry values (.declared d)) =
      (valueAt registry values d.name).records.map d.node := by
  rw [Binding.nodeStatements, placeIn, recordsAt_eq_records, List.map_map]
  apply List.map_congr_left
  intro r hr
  rw [Function.comp_apply, d.fill_declared (h r hr)]
  rfl

lemma nodeStatements_implied (registry : Registry) (values : Value) (name : String) :
    Binding.nodeStatements .descriptors (placeIn registry values (.implied name)) =
      (valueAt registry values name).records.map (Descriptor.implied name) := by
  rw [Binding.nodeStatements, placeIn, recordsAt_eq_records, List.map_map]
  rfl

lemma nodeStatements_eq {registry : Registry} {values : Value} {g : Dot.Graph}
    (h : ∀ d ∈ g.nodeDeclarations,
      ∀ r ∈ (valueAt registry values.orEmpty d.name).records, r.Distinct) :
    g.nodeStatements .descriptors registry values = g.createdNodes registry values := by
  rw [nodeStatements, Outline.sites, List.flatMap_append, impliedNames_ofGraph, List.flatMap_map,
    List.flatMap_map, createdNodes]
  congr 1
  · exact List.flatMap_congr fun d hd => nodeStatements_declared (h d hd)
  · exact List.flatMap_congr fun name _ => nodeStatements_implied _ _ name

lemma isNode_of_mem_edgeRelationships {directed : Bool} {e : EdgeDeclaration} {places : List Place}
    {d : Descriptor} (h : d ∈ edgeRelationships .descriptors directed e places) :
    d.isNode = false := by
  obtain ⟨link, -, hpair⟩ := List.mem_flatMap.mp h
  obtain ⟨pair, -, rfl⟩ := List.mem_map.mp hpair
  rfl

/-- What the nodes of a binding are. They all stand in front of its relationships: one node for each
record of each declaration in turn, and then one for each record of each name that only edges
mention. Attribute statements and subgraphs add nothing to a binding. -/
theorem nodes_of_bind (factory : Factory σ) (registry : Registry) (values : Value) (g : Dot.Graph)
    (hdistinct : ∀ d ∈ g.nodeDeclarations,
      ∀ r ∈ (valueAt registry values.orEmpty d.name).records, r.Distinct) :
    (∀ statements gaps,
      (g.bind factory registry values).output.result = .ok (statements, gaps) →
        ∃ relationships : List Descriptor, (∀ d ∈ relationships, d.isNode = false) ∧
          (g.bind .descriptors registry values).output.result =
            .ok (g.createdNodes registry values ++ relationships, gaps) ∧
          statements = (g.createdNodes registry values ++ relationships).map factory.write) ∧
    g.declarationsOnly.bind factory registry values = g.bind factory registry values := by
  constructor
  · intro statements gaps h
    obtain ⟨created, hcreated, rfl⟩ := exists_created h
    obtain ⟨hok, rfl, -⟩ := Output.result_eq_ok_iff.1 hcreated
    have hblocks := Outline.statements_bind hok
    change _ = g.nodeStatements .descriptors registry values ++ _ at hblocks
    rw [nodeStatements_eq hdistinct] at hblocks
    refine ⟨_, ?_, hcreated.trans ?_, congrArg _ hblocks⟩
    · intro d hd
      obtain ⟨e, -, hedge⟩ := List.mem_flatMap.mp hd
      exact isNode_of_mem_edgeRelationships hedge
    · exact congrArg _ (congrArg (·, gaps) hblocks)
  · rw [bind, ofGraph_declarationsOnly, bind]

/-- A name declared twice, with a key that is given twice, and two names that only edges mention.
What stands in the subgraph is not declared. -/
def repeatedGraph : Dot.Graph :=
  ⟨.digraph, "", false,
    [.attributes .node [⟨"label", "Z"⟩],
      .node ⟨"A", [⟨"label", "X"⟩, ⟨"tag", "1"⟩, ⟨"label", "Y"⟩, ⟨"idName", "key"⟩]⟩,
      .subgraph "s" [.node ⟨"C", []⟩, .edge ⟨["A", "C"], []⟩], .edge ⟨["A", "B", "A"], []⟩,
      .node ⟨"A", [⟨"color", "red"⟩]⟩, .edge ⟨["B", "D"], []⟩]⟩

def repeatedValues : Value :=
  .map [(.text "D", .map [(.text "id", .int 4)]), (.text "C", .map [(.text "id", .int 9)]),
    (.text "A", .map [(.text "key", .int 1), (.text "tag", .bool true), (.int 0, .null)]),
    (.text "B", .list [.map [(.text "id", .int 2)], .null, .map [(.text "id", .int 3)]])]

/-- The first declaration is read with its last label and the tag of the record. Both names of the
edges follow the declarations, with no node for the null between the records and none for the name
in the subgraph. -/
theorem nodes_repeatedGraph :
    (∀ d ∈ repeatedGraph.nodeDeclarations,
      ∀ r ∈ (valueAt .empty repeatedValues.orEmpty d.name).records, r.Distinct) ∧
    ∃ relationships : List Descriptor, relationships.length = 6 ∧
      (∀ d ∈ relationships, d.isNode = false) ∧
      (repeatedGraph.declarationsOnly.bind .descriptors .empty repeatedValues).output.result =
        .ok ([.node (.one "Y") "key" ⟨[(.text "label", .text "Y"), (.text "tag", .bool true),
            (.text "key", .int 1), (.int 0, .null)]⟩,
          .node (.one "A") "id" ⟨[(.text "color", .text "red"), (.text "key", .int 1),
            (.text "tag", .bool true), (.int 0, .null)]⟩,
          .node (.one "B") "id" ⟨[(.text "id", .int 2)]⟩,
          .node (.one "B") "id" ⟨[(.text "id", .int 3)]⟩,
          .node (.one "D") "id" ⟨[(.text "id", .int 4)]⟩] ++ relationships, []) := by
  have hdistinct : ∀ d ∈ repeatedGraph.nodeDeclarations,
      ∀ r ∈ (valueAt .empty repeatedValues.orEmpty d.name).records, r.Distinct := by
    decide +kernel
  have h := nodes_of_bind .descriptors .empty repeatedValues repeatedGraph hdistinct
  obtain ⟨relationships, hrelationships, hresult, hstatements⟩ := h.1 _ _ rfl
  refine ⟨hdistinct, relationships, ?_, hrelationships, ?_⟩
  · have hlength := congrArg List.length hstatements
    rw [List.length_map, List.length_append] at hlength
    exact (Nat.add_left_cancel (n := 5) hlength).symm
  · rw [h.2]
    exact hresult

end Dot.Graph

end DotBinding

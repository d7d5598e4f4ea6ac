import DotBinding.Proofs.Binding.Gaps
import DotBinding.Proofs.Binding.Nodes

/-!
# Adding an edge

A graph with one more edge binds to what it bound to before, with additions in three places: nodes
for the names that were not mentioned, relationships of the edge behind all others, and gaps of both
behind those of their kind. Names are found at the same sites as before, since only declarations
make them, and what a name resolves to does not depend on the graph at all.
-/

namespace DotBinding

open Dot (EdgeDeclaration)

namespace Binding

end Binding

namespace Outline

open Binding

variable {σ : Type} {factory : Factory σ} {registry : Registry} {values : Value} {o : Outline}

/-- An outline with one more edge behind the others. -/
def addEdge (o : Outline) (e : EdgeDeclaration) : Outline :=
  { o with edges := o.edges ++ [e] }

/-- The names of an edge that neither a declaration nor another edge mentions. -/
def newNames (o : Outline) (e : EdgeDeclaration) : List String :=
  firstOccurrences (e.chain.filter fun name =>
    (o.declaration? name).isNone && !(o.edges.flatMap (·.chain)).contains name)

lemma impliedNames_addEdge (o : Outline) (e : EdgeDeclaration) :
    (o.addEdge e).impliedNames = o.impliedNames ++ o.newNames e := by
  rw [impliedNames, addEdge, List.flatMap_append, List.flatMap_singleton, List.filter_append,
    firstOccurrences_append, List.filter_filter]
  change o.impliedNames ++ _ = o.impliedNames ++ _
  rw [newNames]
  congr 2
  apply List.filter_congr
  intro name _
  change (!List.contains (List.filter (fun name => (o.declaration? name).isNone) _) name &&
    (o.declaration? name).isNone) = _
  cases hdeclared : (o.declaration? name).isNone with
  | false => simp
  | true => simp [hdeclared]

lemma sites_addEdge (o : Outline) (e : EdgeDeclaration) :
    (o.addEdge e).sites = o.sites ++ (o.newNames e).map .implied := by
  rw [sites, impliedNames_addEdge, List.map_append, ← List.append_assoc]
  rfl

/-- A binding that succeeds with one more edge succeeds without it. -/
lemma failure?_of_addEdge {e : EdgeDeclaration}
    (h : ((o.addEdge e).bind factory registry values).output.failure? = none) :
    (o.bind factory registry values).output.failure? = none := by
  have hstop := stop?_eq_none_of_bind h
  rw [names, sites_addEdge, List.map_append, firstOccurrences_append, stop?_lookUp_append,
    Option.or_eq_none_iff] at hstop
  rw [failure?_bind, Option.or_eq_none_iff, Option.map_eq_none_iff, Option.map_eq_none_iff] at h ⊢
  refine ⟨hstop.1, ?_⟩
  have hedges : (o.edges ++ [e]).findSome? (o.edgeConflict? registry values.orEmpty) = none := h.2
  rw [List.findSome?_append, Option.or_eq_none_iff] at hedges
  exact hedges.1

end Outline

namespace Descriptor

/-- The nodes among what is created. -/
def nodesOf (created : List Descriptor) : List Descriptor :=
  created.filter (·.isNode)

/-- The relationships among what is created. -/
def relationshipsOf (created : List Descriptor) : List Descriptor :=
  created.filter (!·.isNode)

lemma nodesOf_append {nodes relationships : List Descriptor} (hnodes : ∀ d ∈ nodes, d.isNode = true)
    (hrelationships : ∀ d ∈ relationships, d.isNode = false) :
    nodesOf (nodes ++ relationships) = nodes ∧
      relationshipsOf (nodes ++ relationships) = relationships := by
  have hnone : nodesOf relationships = [] := by
    rw [nodesOf, List.filter_eq_nil_iff]
    intro d hd
    simp [hrelationships d hd]
  have hnone' : relationshipsOf nodes = [] := by
    rw [relationshipsOf, List.filter_eq_nil_iff]
    intro d hd
    simp [hnodes d hd]
  constructor
  · rw [nodesOf, List.filter_append, List.filter_eq_self.mpr hnodes]
    exact (congrArg (nodes ++ ·) hnone).trans (List.append_nil _)
  · have hall : relationshipsOf relationships = relationships := by
      rw [relationshipsOf, List.filter_eq_self]
      intro d hd
      simp [hrelationships d hd]
    rw [relationshipsOf, List.filter_append]
    exact congrArg₂ (· ++ ·) hnone' hall

end Descriptor

namespace Dot.Graph

open Binding Descriptor

variable {σ : Type}

/-- A graph with an edge behind its statements. -/
def addEdge (g : Dot.Graph) (e : EdgeDeclaration) : Dot.Graph :=
  { g with statements := g.statements ++ [.edge e] }

/-- The names of an edge that a graph does not mention, in the order of first mention. -/
def newNames (g : Dot.Graph) (e : EdgeDeclaration) : List String :=
  firstOccurrences (e.chain.filter fun name => !g.mentionedNames.contains name)

/-- The nodes that the records of these names become. -/
def newNodes (registry : Registry) (values : Value) (g : Dot.Graph) (e : EdgeDeclaration) :
    List Descriptor :=
  (g.newNames e).flatMap fun name =>
    (valueAt registry values.orEmpty name).records.map (Descriptor.implied name)

lemma ofGraph_addEdge (g : Dot.Graph) (e : EdgeDeclaration) :
    Outline.ofGraph (g.addEdge e) = (Outline.ofGraph g).addEdge e := by
  have hnodes : (g.addEdge e).nodeDeclarations = g.nodeDeclarations := by
    simp [nodeDeclarations, addEdge]
  have hedges : (g.addEdge e).edgeDeclarations = g.edgeDeclarations ++ [e] := by
    simp [edgeDeclarations, addEdge]
  rw [Outline.ofGraph, hnodes, hedges]
  rfl

lemma newNames_ofGraph (g : Dot.Graph) (e : EdgeDeclaration) :
    (Outline.ofGraph g).newNames e = g.newNames e := by
  rw [Outline.newNames, newNames]
  congr 1
  apply List.filter_congr
  intro name _
  have hdeclared : (g.nodeDeclarations.map (·.name)).contains name =
      ((Outline.ofGraph g).declaration? name).isSome :=
    (Outline.ofGraph g).contains_declared name
  have hmentioned : g.mentionedNames.contains name =
      ((g.nodeDeclarations.map (·.name)).contains name ||
        (g.edgeDeclarations.flatMap (·.chain)).contains name) := by
    rw [Bool.eq_iff_iff, Bool.or_eq_true]
    simp only [List.contains_iff_mem, mentionedNames, mem_firstOccurrences, List.mem_append]
  rw [hmentioned, hdeclared, Bool.not_or, Option.not_isSome]
  rfl

lemma newNames_eq_nil {g : Dot.Graph} {e : EdgeDeclaration}
    (h : ∀ name ∈ e.chain, name ∈ g.mentionedNames) : g.newNames e = [] := by
  have hnone : (e.chain.filter fun name => !g.mentionedNames.contains name) = [] := by
    rw [List.filter_eq_nil_iff]
    intro name hname
    simp [h name hname]
  rw [newNames, hnone]
  rfl

/-- What a graph gives with one more edge, in parts: its nodes, the new nodes, its relationships and
those of the edge. -/
lemma created_addEdge {registry : Registry} {values : Value} {g : Dot.Graph} {e : EdgeDeclaration}
    (h : ((g.addEdge e).bind .descriptors registry values).output.failure? = none) :
    ∃ nodes relationships : List Descriptor,
      (∀ d ∈ nodes, d.isNode = true) ∧ (∀ d ∈ relationships, d.isNode = false) ∧
      (g.bind .descriptors registry values).output.statements = nodes ++ relationships ∧
      ((g.addEdge e).bind .descriptors registry values).output.statements =
        (nodes ++ g.newNodes registry values e) ++ (relationships ++
          edgeRelationships .descriptors g.directed e (g.placesOf registry values e)) := by
  rw [bind, ofGraph_addEdge] at h
  have hold := Outline.failure?_of_addEdge h
  refine ⟨g.nodeStatements .descriptors registry values, g.edgeDeclarations.flatMap fun e =>
    edgeRelationships .descriptors g.directed e (g.placesOf registry values e), ?_, ?_,
    Outline.statements_bind hold, ?_⟩
  · intro d hd
    obtain ⟨s, -, hs⟩ := List.mem_flatMap.mp hd
    obtain ⟨r, -, rfl⟩ := List.mem_map.mp hs
    rfl
  · intro d hd
    obtain ⟨e, -, hedge⟩ := List.mem_flatMap.mp hd
    exact isNode_of_mem_edgeRelationships hedge
  · rw [bind, ofGraph_addEdge, Outline.statements_bind h, Outline.sites_addEdge,
      List.flatMap_append, List.flatMap_map, newNames_ofGraph]
    have hnew : ((g.newNames e).flatMap fun name =>
        Binding.nodeStatements .descriptors (placeIn registry values.orEmpty (.implied name))) =
        g.newNodes registry values e :=
      List.flatMap_congr fun name _ => nodeStatements_implied _ _ name
    rw [hnew]
    congr 1
    exact List.flatMap_append.trans (congrArg (_ ++ ·) (List.flatMap_singleton ..))

/-- The gaps of a graph with one more edge: the absent new names come behind those of the nodes, and
the gaps of the edge behind all others. -/
lemma gaps_addEdge (registry : Registry) (values : Value) (g : Dot.Graph) (e : EdgeDeclaration) :
    ∃ ofNodes ofEdges, g.gaps registry values = ofNodes ++ ofEdges ∧
      (g.addEdge e).gaps registry values =
        (ofNodes ++ nodeGaps registry values.orEmpty (g.newNames e)) ++
          (ofEdges ++ edgeGaps registry values.orEmpty e (g.placesOf registry values e)) := by
  have houtline : Outline.ofGraph (g.addEdge e) = (Outline.ofGraph g).addEdge e :=
    g.ofGraph_addEdge e
  have hnodes : (g.addEdge e).nodeDeclarations = g.nodeDeclarations :=
    congrArg Outline.nodes houtline
  have hedges : (g.addEdge e).edgeDeclarations = g.edgeDeclarations ++ [e] :=
    congrArg Outline.edges houtline
  have hplaces : (g.addEdge e).placesOf registry values = g.placesOf registry values := by
    funext e'
    rw [placesOf, houtline]
    rfl
  have hsplit (names more : List String) : nodeGaps registry values.orEmpty (names ++ more) =
      nodeGaps registry values.orEmpty names ++ nodeGaps registry values.orEmpty more := by
    rw [nodeGaps, List.filter_append, List.map_append]
    rfl
  refine ⟨nodeGaps registry values.orEmpty (g.nodeDeclarations.map (·.name)) ++
    nodeGaps registry values.orEmpty (Outline.ofGraph g).impliedNames,
    g.edgeDeclarations.flatMap fun e =>
      edgeGaps registry values.orEmpty e (g.placesOf registry values e), ?_, ?_⟩
  · rw [gaps, List.append_assoc]
  · rw [gaps, hnodes, hedges, hplaces, houtline, Outline.impliedNames_addEdge, hsplit,
      newNames_ofGraph, List.flatMap_append, List.flatMap_singleton]
    simp only [List.append_assoc]

/-- What one more edge adds. If the graph with the edge can be bound, then so can the graph without
it, and what that gives is all there again, in its order: behind its nodes there are new ones for
the records of the names that it does not mention, behind its relationships those of the edge, and
behind the gaps of either kind those that the edge adds. If every name of the edge is mentioned
anyway, everything new comes last. -/
theorem bind_addEdge (factory : Factory σ) (registry : Registry) (values : Value) (g : Dot.Graph)
    (e : EdgeDeclaration) (statements' : List σ) (gaps' : List Diagnostic)
    (h : ((g.addEdge e).bind factory registry values).output.result = .ok (statements', gaps')) :
    ∃ created ofNodes ofEdges,
      (g.bind .descriptors registry values).output.result = .ok (created, ofNodes ++ ofEdges) ∧
      (g.bind factory registry values).output.result =
        .ok (created.map factory.write, ofNodes ++ ofEdges) ∧
      created = nodesOf created ++ relationshipsOf created ∧
      statements' = ((nodesOf created ++ g.newNodes registry values e) ++
        (relationshipsOf created ++ edgeRelationships .descriptors g.directed e
          (g.placesOf registry values e))).map factory.write ∧
      gaps' = (ofNodes ++ nodeGaps registry values.orEmpty (g.newNames e)) ++
        (ofEdges ++ edgeGaps registry values.orEmpty e (g.placesOf registry values e)) ∧
      (ofNodes ++ ofEdges).Sublist gaps' ∧
      ((∀ name ∈ e.chain, name ∈ g.mentionedNames) →
        created.map factory.write <+: statements' ∧ ofNodes ++ ofEdges <+: gaps') := by
  obtain ⟨created', hcreated', rfl⟩ := exists_created h
  obtain ⟨hok', rfl, -⟩ := Output.result_eq_ok_iff.1 hcreated'
  obtain ⟨hfactory', -, rfl⟩ := Output.result_eq_ok_iff.1 h
  have hfactory : (g.bind factory registry values).output.failure? = none := by
    rw [bind, ofGraph_addEdge] at hfactory'
    exact Outline.failure?_of_addEdge hfactory'
  obtain ⟨created, hcreated, hwritten⟩ :=
    exists_created (Output.result_eq_ok_iff.2 ⟨hfactory, rfl, Outline.diagnostics_bind hfactory⟩)
  obtain ⟨-, rfl, -⟩ := Output.result_eq_ok_iff.1 hcreated
  obtain ⟨nodes, relationships, hnodes, hrelationships, hold, hnew⟩ := created_addEdge hok'
  obtain ⟨hnodesOf, hrelationshipsOf⟩ := nodesOf_append hnodes hrelationships
  obtain ⟨ofNodes, ofEdges, hgaps, hgaps'⟩ := g.gaps_addEdge registry values e
  have hreported' : ((g.addEdge e).bind factory registry values).output.diagnostics =
      (g.addEdge e).gaps registry values := Outline.diagnostics_bind hfactory'
  change _ = Except.ok (_, g.gaps registry values) at hcreated
  rw [hgaps] at hcreated
  have hresult : (g.bind factory registry values).output.result =
      .ok ((g.bind .descriptors registry values).output.statements.map factory.write,
        ofNodes ++ ofEdges) :=
    Output.result_eq_ok_iff.2 ⟨hfactory, hwritten, (Outline.diagnostics_bind hfactory).trans hgaps⟩
  refine ⟨_, ofNodes, ofEdges, hcreated, hresult, ?_, ?_, ?_, ?_, ?_⟩
  · rw [hold, hnodesOf, hrelationshipsOf]
  · rw [hnew, hold, hnodesOf, hrelationshipsOf]
  · rw [hreported', hgaps']
  · rw [hreported', hgaps']
    exact (List.sublist_append_left _ _).append (List.sublist_append_left _ _)
  · intro hmentioned
    have hnone := newNames_eq_nil hmentioned
    have hnogap : nodeGaps registry values.orEmpty [] = [] := rfl
    rw [hnew, hold, hreported', hgaps', newNodes, hnone, hnogap]
    simp only [List.flatMap_nil, List.append_nil, List.map_append, ← List.append_assoc]
    exact ⟨List.prefix_append _ _, List.prefix_append _ _⟩

/-- A declared name with two edges, the first of which leads to an absent name. -/
def growingGraph : Dot.Graph :=
  ⟨.digraph, "", false, [.edge ⟨["A", "Z"], []⟩, .node ⟨"A", []⟩, .edge ⟨["A", "B"], []⟩]⟩

def growingValues : Value :=
  let record (n : Int) : Value := .map [(.text "id", .int n)]
  .map [(.text "A", record 1), (.text "B", record 2), (.text "C", .list [record 3, record 4])]

def growingGaps : List Diagnostic :=
  [.missingNode "Z", .missingEndpoint "Z" "A -> Z", .shortEdge "A -> Z"]

/-- An edge to two new names, one of them absent, has its nodes and gaps put in between. One between
names that are mentioned before comes last in everything. -/
theorem bind_growingGraph :
    (∃ statements, (growingGraph.bind .descriptors .empty growingValues).output.result =
        .ok (statements, growingGaps) ∧
      ∃ statements' gaps', ((growingGraph.addEdge ⟨["B", "A"], []⟩).bind .descriptors .empty
          growingValues).output.result = .ok (statements', gaps') ∧
        statements <+: statements' ∧ growingGaps <+: gaps') ∧
    ∃ statements, ((growingGraph.addEdge ⟨["B", "C", "D"], []⟩).bind .descriptors .empty
        growingValues).output.result = .ok (statements, [.missingNode "Z", .missingNode "D",
          .missingEndpoint "Z" "A -> Z", .shortEdge "A -> Z",
          .missingEndpoint "D" "B -> C -> D"]) ∧
      statements = [.node (.one "A") "id" ⟨[(.text "id", .int 1)]⟩,
        .node (.one "B") "id" ⟨[(.text "id", .int 2)]⟩,
        .node (.one "C") "id" ⟨[(.text "id", .int 3)]⟩,
        .node (.one "C") "id" ⟨[(.text "id", .int 4)]⟩,
        .relationship ⟨.int 1, .one "A", "id"⟩ ⟨.int 2, .one "B", "id"⟩ "Relationship" .none,
        .relationship ⟨.int 2, .one "B", "id"⟩ ⟨.int 3, .one "C", "id"⟩ "Relationship" .none,
        .relationship ⟨.int 2, .one "B", "id"⟩ ⟨.int 4, .one "C", "id"⟩ "Relationship" .none] := by
  constructor
  · obtain ⟨created, ofNodes, ofEdges, -, hold, -, -, -, -, hlast⟩ :=
      bind_addEdge .descriptors .empty growingValues growingGraph ⟨["B", "A"], []⟩ _ _ rfl
    have hmentioned : ∀ name ∈ ["B", "A"], name ∈ growingGraph.mentionedNames := by decide
    have hgaps : ofNodes ++ ofEdges = growingGaps := (congrArg Prod.snd (Except.ok.inj hold)).symm
    rw [hgaps] at hold hlast
    exact ⟨_, hold, _, _, rfl, hlast hmentioned⟩
  · obtain ⟨created, ofNodes, ofEdges, hold, -, -, hnew, -⟩ :=
      bind_addEdge .descriptors .empty growingValues growingGraph ⟨["B", "C", "D"], []⟩ _ _ rfl
    obtain rfl := congrArg Prod.fst (Except.ok.inj hold)
    exact ⟨_, rfl, hnew⟩

end Dot.Graph

end DotBinding

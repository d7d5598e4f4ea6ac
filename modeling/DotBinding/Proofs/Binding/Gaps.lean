import DotBinding.Proofs.Binding.Endpoints
import DotBinding.Proofs.Binding.Names
import DotBinding.Proofs.Dot.Unambiguity
import Mathlib.Data.List.TakeWhile

/-!
# Gaps reported

The gaps that a binding reports, in closed form and in order: the absent names among the
declarations, those among the implied names, and for each edge the absent names of its chain,
followed by what its relationships lack. From this it is read off when nothing is reported, and
that an edge is never cut short without a word.
-/

namespace DotBinding

open Dot (EdgeDeclaration)

namespace Descriptor

def ends : Descriptor → List Endpoint
  | .node _ _ _ => []
  | .relationship left right _ _ => [left, right]

end Descriptor

namespace Diagnostic

/-- A message says what it is about. -/
lemma name_isInfix_message (d : Diagnostic) : d.name.toList <:+: d.message.toList := by
  have hnamed (start name : String) : name.toList <:+: (start ++ name).toList := by
    rw [String.toList_append]
    exact (List.suffix_append _ _).isInfix
  have hgoes {name text : String} (h : name.toList <:+: text.toList) (more : String) :
      name.toList <:+: (text ++ more).toList := by
    rw [String.toList_append]
    exact h.trans (List.prefix_append _ _).isInfix
  cases d with
  | missingNode name => exact hgoes (hnamed _ name) _
  | missingEndpoint name edge => exact hgoes (hgoes (hgoes (hnamed _ name) _) edge) _
  | shortEdge edge => exact hgoes (hgoes (hnamed _ edge) _) _
  | missingId name edge idName =>
    exact hgoes (hgoes (hgoes (hgoes (hgoes (hnamed _ name) _) edge) _) _) _

end Diagnostic

namespace Binding

variable {σ : Type} {factory : Factory σ} {directed : Bool} {registry : Registry} {values : Value}

def isAbsent (registry : Registry) (values : Value) (name : String) : Bool :=
  (recordsAt registry values name).isEmpty

/-- A gap for each absent one of the names that nodes are made for. -/
def nodeGaps (registry : Registry) (values : Value) (names : List String) : List Diagnostic :=
  (names.filter (isAbsent registry values)).map .missingNode

/-- The ends of the relationships of an edge, in the order in which they are made, each with the
site that it attaches to. -/
def edgeEnds (places : List Place) : List (Outline.Site × Endpoint) :=
  (links (resolvedPart places)).flatMap fun link =>
    (link.1.records ×ˢ link.2.records).flatMap fun pair =>
      [(link.1.site, endpointAt link.1.site pair.1), (link.2.site, endpointAt link.2.site pair.2)]

/-- A gap for each end without an id. -/
def idGaps (e : EdgeDeclaration) (places : List Place) : List Diagnostic :=
  ((edgeEnds places).filter (·.2.id.isNull)).map fun x =>
    .missingId x.1.name e.description x.1.idName

/-- The gaps of an edge: its absent names, and then that it is short, or else the ends without an
id. -/
def edgeGaps (registry : Registry) (values : Value) (e : EdgeDeclaration) (places : List Place) :
    List Diagnostic :=
  (e.chain.filter (isAbsent registry values)).map (.missingEndpoint · e.description) ++
    if (e.chain.filter (!isAbsent registry values ·)).length < 2 then [.shortEdge e.description]
    else idGaps e places

lemma flatMap_ite {α β : Type} (p : α → Bool) (f : α → β) (items : List α) :
    items.flatMap (fun a => if p a then [f a] else []) = (items.filter p).map f := by
  induction items with
  | nil => rfl
  | cons a rest ih =>
    rw [List.flatMap_cons, ih]
    cases h : p a <;> simp [h]

/-! ## One place and one edge -/

lemma isEmpty_placeIn (site : Outline.Site) :
    (placeIn registry values site).isEmpty = isAbsent registry values site.name := by
  rw [placeIn, Place.isEmpty, List.isEmpty_map, isAbsent]

lemma diagnostics_nodes (sites : List Outline.Site) :
    (Output.join (sites.map fun s => nodesAt factory (placeIn registry values s))).diagnostics =
      nodeGaps registry values (sites.map (·.name)) := by
  have hnode : ∀ s : Outline.Site, (nodesAt factory (placeIn registry values s)).diagnostics =
      if isAbsent registry values s.name then [.missingNode s.name] else [] := by
    intro s
    rw [← isEmpty_placeIn, nodesAt]
    split <;> rfl
  rw [Output.diagnostics_join failure?_of_mem_nodes, List.flatMap_map]
  simp only [hnode]
  rw [flatMap_ite, nodeGaps, List.filter_map, List.map_map]
  rfl

lemma diagnostics_relateAll {e : EdgeDeclaration} {left right : Place}
    (h : conflict? e left right = none) :
    (relateAll factory directed e left right).diagnostics =
      (left.records ×ˢ right.records).flatMap fun pair =>
        idGap e left.site (endpointAt left.site pair.1) ++
          idGap e right.site (endpointAt right.site pair.2) := by
  rw [relateAll_eq_join h, Output.diagnostics_join (failure?_of_mem_pairs left right _),
    List.flatMap_map]
  rfl

lemma idGaps_eq (e : EdgeDeclaration) (places : List Place) :
    idGaps e places = (links (resolvedPart places)).flatMap fun link =>
      (link.1.records ×ˢ link.2.records).flatMap fun pair =>
        idGap e link.1.site (endpointAt link.1.site pair.1) ++
          idGap e link.2.site (endpointAt link.2.site pair.2) := by
  rw [idGaps, ← flatMap_ite, edgeEnds]
  simp only [List.flatMap_assoc]
  simp [idGap]

lemma diagnostics_edgeAt {e : EdgeDeclaration} {places : List Place}
    (h : ∀ link ∈ links (resolvedPart places), conflict? e link.1 link.2 = none) :
    (edgeAt factory directed e places).diagnostics = endpointGaps e places ++
      if (places.filter (!·.isEmpty)).length < 2 then [.shortEdge e.description]
      else idGaps e places := by
  rw [edgeAt, Output.diagnostics_andThen rfl]
  change endpointGaps e places ++ _ = _
  congr 1
  split
  · rfl
  · rw [Output.diagnostics_join (failure?_of_mem_neighbours h), neighbours_eq_links,
      List.flatMap_map, idGaps_eq]
    apply List.flatMap_congr
    intro link hlink
    exact diagnostics_relateAll (h link hlink)

/-! ## When an edge leaves none -/

lemma idGaps_eq_nil_iff {e : EdgeDeclaration} {places : List Place} :
    idGaps e places = [] ↔ ∀ x ∈ edgeEnds places, x.2.id ≠ .null := by
  simp [idGaps, List.filter_eq_nil_iff]

lemma edgeGaps_eq_nil_iff {e : EdgeDeclaration} (he : 2 ≤ e.chain.length) {places : List Place} :
    edgeGaps registry values e places = [] ↔
      (∀ name ∈ e.chain, isAbsent registry values name = false) ∧
        ∀ x ∈ edgeEnds places, x.2.id ≠ .null := by
  rw [edgeGaps, List.append_eq_nil_iff, List.map_eq_nil_iff, List.filter_eq_nil_iff]
  simp only [Bool.not_eq_true]
  apply and_congr_right
  intro hchain
  have hall : (e.chain.filter fun name => !isAbsent registry values name) = e.chain := by
    rw [List.filter_eq_self]
    intro name hname
    rw [hchain name hname]
    rfl
  rw [hall, if_neg (by omega), idGaps_eq_nil_iff]

end Binding

namespace Outline

open Binding

variable {σ : Type} {factory : Factory σ} {registry : Registry} {values : Value} {o : Outline}

lemma diagnostics_edge {e : EdgeDeclaration}
    (h : ∀ link ∈ links (resolvedPart (o.placesOf registry values e)),
      conflict? e link.1 link.2 = none) :
    (edgeAt factory o.directed e (o.placesOf registry values e)).diagnostics =
      edgeGaps registry values e (o.placesOf registry values e) := by
  have hempty : ∀ name, (placeIn registry values (o.site name)).isEmpty =
      isAbsent registry values name := by
    intro name
    rw [isEmpty_placeIn, name_site]
  have hgaps : endpointGaps e (o.placesOf registry values e) =
      (e.chain.filter (isAbsent registry values)).map (.missingEndpoint · e.description) := by
    rw [endpointGaps, placesOf, List.filter_map, List.map_map]
    simp only [Function.comp_def, hempty]
    simp only [placeIn, name_site]
  have hlength : ((o.placesOf registry values e).filter (!·.isEmpty)).length =
      (e.chain.filter (!isAbsent registry values ·)).length := by
    rw [placesOf, List.filter_map, List.length_map]
    simp only [Function.comp_def, hempty]
  rw [diagnostics_edgeAt h, hgaps, hlength, edgeGaps]

theorem diagnostics_bind (h : (o.bind factory registry values).output.failure? = none) :
    (o.bind factory registry values).output.diagnostics =
      nodeGaps registry values.orEmpty (o.nodes.map (·.name)) ++
        (nodeGaps registry values.orEmpty o.impliedNames ++ o.edges.flatMap fun e =>
          edgeGaps registry values.orEmpty e (o.placesOf registry values.orEmpty e)) := by
  rw [bind_output (stop?_eq_none_of_bind h), Output.diagnostics_andThen (failure?_join_nodes _),
    diagnostics_nodes, Output.diagnostics_join (failure?_of_mem_edges h), List.flatMap_map,
    map_name_sites, nodeGaps, List.filter_append, List.map_append, List.append_assoc]
  congr 2
  apply List.flatMap_congr
  intro e he
  exact diagnostics_edge fun link hlink => conflict?_eq_none_of_bind h he hlink

/-- The ends in a binding's output are those of its edges. -/
lemma ends_statements_bind (h : (o.bind .descriptors registry values).output.failure? = none) :
    (o.bind .descriptors registry values).output.statements.flatMap Descriptor.ends =
      o.edges.flatMap fun e => (edgeEnds (o.placesOf registry values.orEmpty e)).map (·.2) := by
  have hnodes : o.sites.flatMap (fun s => (nodeStatements .descriptors
      (placeIn registry values.orEmpty s)).flatMap Descriptor.ends) = [] := by
    -- a node has no ends, so only relationships are left
    rw [List.flatMap_eq_nil_iff]
    intro s _
    simp [nodeStatements, Factory.descriptors, Descriptor.ends]
  rw [statements_bind h, List.flatMap_append, List.flatMap_assoc, hnodes, List.nil_append,
    List.flatMap_assoc]
  apply List.flatMap_congr
  intro e _
  rw [edgeRelationships, edgeEnds, List.flatMap_assoc, List.map_flatMap]
  simp [List.flatMap_map, List.map_flatMap, relationshipOf, Factory.descriptors, Descriptor.ends]

end Outline

namespace Dot.Graph

open Binding

variable {σ : Type}

/-- The gaps of a graph: a missing node for each declaration of an absent name and for each absent
implied name, and then the gaps of each edge. -/
def gaps (registry : Registry) (values : Value) (g : Dot.Graph) : List Diagnostic :=
  nodeGaps registry values.orEmpty (g.nodeDeclarations.map (·.name)) ++
    (nodeGaps registry values.orEmpty (Outline.ofGraph g).impliedNames ++
      g.edgeDeclarations.flatMap fun e =>
        edgeGaps registry values.orEmpty e (g.placesOf registry values e))

lemma gaps_eq_nil_iff {registry : Registry} {values : Value} {g : Dot.Graph}
    (hchains : ∀ e ∈ g.edgeDeclarations, 2 ≤ e.chain.length) :
    g.gaps registry values = [] ↔
      (∀ name ∈ g.mentionedNames, isAbsent registry values.orEmpty name = false) ∧
        ∀ e ∈ g.edgeDeclarations, ∀ x ∈ edgeEnds (g.placesOf registry values e),
          x.2.id ≠ .null := by
  have hnodes : ∀ names, nodeGaps registry values.orEmpty names = [] ↔
      ∀ name ∈ names, isAbsent registry values.orEmpty name = false := by
    intro names
    simp [nodeGaps, List.filter_eq_nil_iff]
  have hedges : (g.edgeDeclarations.flatMap fun e =>
      edgeGaps registry values.orEmpty e (g.placesOf registry values e)) = [] ↔
      ∀ e ∈ g.edgeDeclarations,
        (∀ name ∈ e.chain, isAbsent registry values.orEmpty name = false) ∧
          ∀ x ∈ edgeEnds (g.placesOf registry values e), x.2.id ≠ .null := by
    rw [List.flatMap_eq_nil_iff]
    exact forall₂_congr fun e he => edgeGaps_eq_nil_iff (hchains e he)
  rw [gaps, List.append_eq_nil_iff, List.append_eq_nil_iff, hnodes, hnodes, hedges]
  constructor
  · rintro ⟨hdeclared, -, hall⟩
    refine ⟨?_, fun e he => (hall e he).2⟩
    intro name hname
    rcases mem_mentionedNames.1 hname with ⟨d, hd, rfl⟩ | ⟨e, he, hchain⟩
    · exact hdeclared d.name (List.mem_map_of_mem hd)
    · exact (hall e he).1 name hchain
  · rintro ⟨hmentioned, hends⟩
    have hchain : ∀ e ∈ g.edgeDeclarations, ∀ name ∈ e.chain,
        isAbsent registry values.orEmpty name = false := fun e he name hname =>
      hmentioned name (mem_mentionedNames.2 (Or.inr ⟨e, he, hname⟩))
    refine ⟨?_, ?_, fun e he => ⟨hchain e he, hends e he⟩⟩
    · intro name hname
      obtain ⟨d, hd, rfl⟩ := List.mem_map.1 hname
      exact hmentioned d.name (mem_mentionedNames.2 (Or.inl ⟨d, hd, rfl⟩))
    · intro name hname
      rw [Outline.impliedNames, mem_firstOccurrences, List.mem_filter, List.mem_flatMap] at hname
      obtain ⟨⟨e, he, hmem⟩, -⟩ := hname
      exact hchain e he name hmem

lemma missingEndpoint_mem_gaps {registry : Registry} {values : Value} {g : Dot.Graph}
    {e : EdgeDeclaration} (he : e ∈ g.edgeDeclarations)
    (hpart : resolvedPart (g.placesOf registry values e) ≠ g.placesOf registry values e) :
    ∃ name ∈ e.chain, .missingEndpoint name e.description ∈ g.gaps registry values := by
  have hempty : ∃ p ∈ g.placesOf registry values e, p.isEmpty = true := by
    by_contra hnone
    push Not at hnone
    apply hpart
    rw [resolvedPart, List.takeWhile_eq_self_iff]
    intro p hp
    simpa using hnone p hp
  obtain ⟨p, hp, habsent⟩ := hempty
  obtain ⟨name, hname, rfl⟩ := List.mem_map.1 hp
  rw [isEmpty_placeIn, Outline.name_site] at habsent
  refine ⟨name, hname, ?_⟩
  apply List.mem_append_right
  apply List.mem_append_right
  refine List.mem_flatMap.2 ⟨e, he, List.mem_append_left _ ?_⟩
  exact List.mem_map.2 ⟨name, List.mem_filter.2 ⟨hname, habsent⟩, rfl⟩

/-- The kinds and names of the gaps of an edge. -/
lemma rows_edgeGaps (registry : Registry) (values : Value) (e : EdgeDeclaration)
    (places : List Place) :
    (edgeGaps registry values e places).map (fun d => (d.kind, d.name)) =
      (e.chain.filter (isAbsent registry values)).map (fun name => ("missing-endpoint", name)) ++
        if (e.chain.filter (!isAbsent registry values ·)).length < 2 then
          [("short-edge", " -> ".intercalate e.chain)]
        else ((edgeEnds places).filter (·.2.id.isNull)).map fun x => ("missing-id", x.1.name) := by
  rw [edgeGaps, List.map_append, List.map_map]
  split
  · rfl
  · rw [idGaps, List.map_map]
    rfl

/-- The kinds and names of the gaps of a graph. -/
lemma rows_gaps (registry : Registry) (values : Value) (g : Dot.Graph) :
    (g.gaps registry values).map (fun d => (d.kind, d.name)) =
      ((g.nodeDeclarations.map (·.name)).filter (isAbsent registry values.orEmpty)).map
        (fun name => ("missing-node", name)) ++
      (((Outline.ofGraph g).impliedNames.filter (isAbsent registry values.orEmpty)).map
        (fun name => ("missing-node", name)) ++
      g.edgeDeclarations.flatMap fun e =>
        (e.chain.filter (isAbsent registry values.orEmpty)).map
            (fun name => ("missing-endpoint", name)) ++
          if (e.chain.filter (!isAbsent registry values.orEmpty ·)).length < 2 then
            [("short-edge", " -> ".intercalate e.chain)]
          else ((edgeEnds (g.placesOf registry values e)).filter (·.2.id.isNull)).map
            fun x => ("missing-id", x.1.name)) := by
  rw [gaps, List.map_append, List.map_append, List.map_flatMap, nodeGaps, nodeGaps, List.map_map,
    List.map_map]
  simp only [rows_edgeGaps]
  rfl

/-- What a binding that succeeds reports. There are exactly these gaps, under these kinds and names,
each with a message that has its name in it, and none if and only if every mentioned name has
records and every end of a relationship that is created has an id. An edge that is not followed to
the end of its chain is reported with a name that is absent. -/
theorem gaps_of_bind {source : String} {graphs : List Dot.Graph}
    (hparse : parse source = .ok graphs) {g : Dot.Graph} (hg : g ∈ graphs) (factory : Factory σ)
    (registry : Registry) (values : Value) (statements : List σ) (reported : List Diagnostic)
    (h : (g.bind factory registry values).output.result = .ok (statements, reported)) :
    reported = g.gaps registry values ∧
    reported.map (fun d => (d.kind, d.name)) =
      ((g.nodeDeclarations.map (·.name)).filter (isAbsent registry values.orEmpty)).map
        (fun name => ("missing-node", name)) ++
      (((Outline.ofGraph g).impliedNames.filter (isAbsent registry values.orEmpty)).map
        (fun name => ("missing-node", name)) ++
      g.edgeDeclarations.flatMap fun e =>
        (e.chain.filter (isAbsent registry values.orEmpty)).map
            (fun name => ("missing-endpoint", name)) ++
          if (e.chain.filter (!isAbsent registry values.orEmpty ·)).length < 2 then
            [("short-edge", " -> ".intercalate e.chain)]
          else ((edgeEnds (g.placesOf registry values e)).filter (·.2.id.isNull)).map
            fun x => ("missing-id", x.1.name)) ∧
    (∀ d ∈ reported, d.name.toList <:+: d.message.toList) ∧
    (∃ created, (g.bind .descriptors registry values).output.result = .ok (created, reported) ∧
      statements = created.map factory.write ∧
      created.flatMap Descriptor.ends = g.edgeDeclarations.flatMap (fun e =>
        (edgeEnds (g.placesOf registry values e)).map (·.2)) ∧
      (reported = [] ↔
        (∀ name ∈ g.mentionedNames, isAbsent registry values.orEmpty name = false) ∧
          ∀ endpoint ∈ created.flatMap Descriptor.ends, endpoint.id ≠ .null)) ∧
    ∀ e ∈ g.edgeDeclarations,
      resolvedPart (g.placesOf registry values e) ≠ g.placesOf registry values e →
        ∃ name ∈ e.chain, .missingEndpoint name e.description ∈ reported := by
  obtain ⟨hok, hstatements, hreported⟩ := Output.result_eq_ok_iff.1 h
  have hgaps : reported = g.gaps registry values :=
    hreported.symm.trans (Outline.diagnostics_bind hok)
  have hwrite := Outline.bind_write (Outline.stop?_eq_none_of_bind hok)
  have hcreated : (g.bind .descriptors registry values).output.failure? = none := by
    rw [bind, hwrite] at hok
    exact hok
  rw [bind, hwrite] at hstatements hreported
  have hends := Outline.ends_statements_bind hcreated
  refine ⟨hgaps, hgaps ▸ rows_gaps registry values g, fun d _ => d.name_isInfix_message,
    ⟨_, Output.result_eq_ok_iff.2 ⟨hcreated, rfl, hreported⟩, hstatements.symm, hends, ?_⟩, ?_⟩
  · have hchains : ∀ e ∈ g.edgeDeclarations, 2 ≤ e.chain.length :=
      fun e he => two_le_length_of_parse hparse hg he
    rw [hgaps, gaps_eq_nil_iff hchains]
    apply and_congr_right
    intro _
    change _ ↔ ∀ endpoint ∈ ((Outline.ofGraph g).bind .descriptors registry
      values).output.statements.flatMap Descriptor.ends, endpoint.id ≠ .null
    rw [hends]
    simp only [List.mem_flatMap, List.mem_map]
    constructor
    · rintro hids _ ⟨e, he, x, hx, rfl⟩
      exact hids e he x hx
    · intro hids e he x hx
      exact hids _ ⟨e, he, x, hx, rfl⟩
  · rw [hgaps]
    exact fun e he => missingEndpoint_mem_gaps he

/-- A chain whose last name is absent, a record without an id at its beginning, and an edge to an
absent name. -/
def lackingSource : String :=
  "digraph \x7b A A -> B -> C D -> B \x7d"

def lackingGraph : Dot.Graph :=
  ⟨.digraph, "", false, [.node ⟨"A", []⟩, .edge ⟨["A", "B", "C"], []⟩, .edge ⟨["D", "B"], []⟩]⟩

def lackingValues : Value :=
  .map [(.text "A", .list [.map [(.text "n", .int 1)], .map [(.text "id", .int 2)]]),
    (.text "B", .map [(.text "id", .int 3)])]

/-- The gaps that are reported, the kinds and names that they are reported under, and their
messages. -/
theorem gaps_of_lackingGraph :
    parse lackingSource = .ok [lackingGraph] ∧
    ∃ created reported,
      (lackingGraph.bind .descriptors .empty lackingValues).output.result =
        .ok (created, reported) ∧
      reported = [.missingNode "C", .missingNode "D", .missingEndpoint "C" "A -> B -> C",
        .missingId "A" "A -> B -> C" "id", .missingEndpoint "D" "D -> B",
        .shortEdge "D -> B"] ∧
      reported.map (fun d => (d.kind, d.name)) =
        [("missing-node", "C"), ("missing-node", "D"), ("missing-endpoint", "C"),
          ("missing-id", "A"), ("missing-endpoint", "D"), ("short-edge", "D -> B")] ∧
      reported.map (·.message) =
        ["No node named C could be found within the values",
          "No node named D could be found within the values",
          "No node named C required by the relationship A -> B -> C could be found within the " ++
            "values",
          "Node A in A -> B -> C has no 'id' value",
          "No node named D required by the relationship D -> B could be found within the values",
          "Found an invalid relationship D -> B with less than two nodes. This is possibly due " ++
            "to a node not existing within the values."] := by
  have hparse : parse lackingSource = .ok [lackingGraph] := rfl
  have h := gaps_of_bind hparse (List.mem_singleton.2 rfl) .descriptors .empty lackingValues _ _ rfl
  exact ⟨hparse, _, _, rfl, h.1.trans rfl, h.2.1.trans rfl, by decide +kernel⟩

end Dot.Graph

end DotBinding

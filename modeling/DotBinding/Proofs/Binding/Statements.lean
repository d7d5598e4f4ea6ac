import DotBinding.Proofs.Binding.Chain

/-!
# The statements of a binding

The statements of a whole binding in closed form: the nodes of all sites, record by record, and
behind them the relationships of all edges. A binding that resolves all its names fails only at a
link with several records on both sides.
-/

namespace DotBinding

open Dot (EdgeDeclaration)

namespace Binding

variable {σ : Type} {factory : Factory σ} {registry : Registry} {values : Value}

/-- One node for each record of a place. -/
def nodeStatements {σ : Type} (factory : Factory σ) (p : Place) : List σ :=
  p.records.map fun r => factory.node (labelAt p.site r) p.site.idName r

lemma failure?_nodesAt (p : Place) : (nodesAt factory p).failure? = none := by
  unfold nodesAt
  split <;> rfl

lemma failure?_of_mem_nodes {sites : List Outline.Site} {place : Outline.Site → Place} :
    ∀ out ∈ sites.map fun s => nodesAt factory (place s), out.failure? = none := by
  intro out hout
  obtain ⟨s, -, rfl⟩ := List.mem_map.1 hout
  exact failure?_nodesAt _

lemma statements_nodesAt (p : Place) :
    (nodesAt factory p).statements = nodeStatements factory p := by
  unfold nodesAt nodeStatements
  split
  · next h =>
    rw [List.isEmpty_iff.1 h]
    rfl
  · rfl

lemma valueOf_ne_cardinality (name : String) (c : CardinalityError) :
    (valueOf registry values name).result ≠ .error (.cardinality c) := by
  unfold valueOf
  split
  · next t _ =>
    unfold Traced.mapError
    cases (t.run values).result <;> simp [Except.mapError]
  · unfold Traced.ofExcept
    cases values.entry name <;> simp [Except.mapError]

lemma resolve_ne_cardinality {refusal? : Record → Option PropertyError} (name : String)
    (c : CardinalityError) :
    (resolve refusal? registry values name).result ≠ .error (.cardinality c) := by
  have hv : (valueOf registry values name).result ≠ .error (.cardinality c) :=
    valueOf_ne_cardinality name c
  unfold resolve Traced.check
  cases h : (valueOf registry values name).result with
  | error e => simpa [Except.bind, h] using hv
  | ok v =>
    intro hfail
    simp only [Except.bind, bind] at hfail
    unfold recordsOf at hfail
    cases hres : Resolution.ofValue name v with
    | error e => simp [hres] at hfail
    | ok r =>
      simp only [hres] at hfail
      unfold writable at hfail
      split at hfail <;> simp at hfail

lemma stop?_ne_cardinality {refusal? : Record → Option PropertyError} (names : List String)
    (name : String) (c : CardinalityError) :
    (lookUp refusal? registry values names).stop? ≠ some (name, .cardinality c) := by
  induction names with
  | nil => simp [lookUp]
  | cons n rest ih =>
    unfold lookUp
    cases hn : (resolve refusal? registry values n).result with
    | ok records =>
      simp only [hn]
      exact ih
    | error e =>
      simp only [hn]
      intro hstop
      obtain ⟨rfl, rfl⟩ := Prod.mk.inj (Option.some.inj hstop)
      exact resolve_ne_cardinality n c hn

end Binding

namespace Outline

open Binding

variable {σ : Type} {factory : Factory σ} {registry : Registry} {values : Value} {o : Outline}

/-- The first link of an edge with several records on both sides. -/
def edgeConflict? (registry : Registry) (values : Value) (o : Outline) (e : EdgeDeclaration) :
    Option CardinalityError :=
  (links (resolvedPart (o.placesOf registry values e))).findSome? fun link =>
    conflict? e link.1 link.2

/-- A binding fails at the name that stops the look-up, or else at the first edge with such a
link. -/
lemma failure?_bind :
    (o.bind factory registry values).output.failure? =
      ((lookUp factory.rejection? registry values.orEmpty o.names).stop?.map (·.2)).or
        ((o.edges.findSome? (o.edgeConflict? registry values.orEmpty)).map .cardinality) := by
  cases hs : (lookUp factory.rejection? registry values.orEmpty o.names).stop? with
  | some stop =>
    unfold bind
    simp only [hs, Output.failure?_andThen, Binding.nodes, Output.failure?_join]
    rw [List.findSome?_eq_none_iff.2 failure?_of_mem_nodes]
    rfl
  | none =>
    rw [bind_output hs, Output.failure?_andThen, Output.failure?_join, Output.failure?_join,
      List.findSome?_eq_none_iff.2 failure?_of_mem_nodes, List.findSome?_map, List.map_findSome?]
    simp only [Option.none_or, Option.map_none]
    congr 1
    funext e
    exact failure?_edgeAt _

lemma conflict?_eq_none_of_bind (h : (o.bind factory registry values).output.failure? = none)
    {e : EdgeDeclaration} (he : e ∈ o.edges) {link : Place × Place}
    (hlink : link ∈ links (resolvedPart (o.placesOf registry values.orEmpty e))) :
    conflict? e link.1 link.2 = none := by
  rw [failure?_bind, Option.or_eq_none_iff, Option.map_eq_none_iff, Option.map_eq_none_iff,
    List.findSome?_eq_none_iff] at h
  have hedge := h.2 e he
  rw [edgeConflict?, List.findSome?_eq_none_iff] at hedge
  exact hedge link hlink

lemma failure?_of_mem_edges (h : (o.bind factory registry values).output.failure? = none) :
    ∀ out ∈ o.edges.map (fun e => edgeAt factory o.directed e
      (o.placesOf registry values.orEmpty e)), out.failure? = none := by
  intro out hout
  obtain ⟨e, he, rfl⟩ := List.mem_map.1 hout
  rw [failure?_edgeAt, Option.map_eq_none_iff, List.findSome?_eq_none_iff]
  exact fun link hlink => conflict?_eq_none_of_bind h he hlink

lemma failure?_join_nodes (sites : List Site) :
    (Output.join (sites.map fun s => nodesAt factory (placeIn registry values s))).failure? =
      none := by
  rw [Output.failure?_join]
  exact List.findSome?_eq_none_iff.2 failure?_of_mem_nodes

theorem statements_bind (h : (o.bind factory registry values).output.failure? = none) :
    (o.bind factory registry values).output.statements =
      (o.sites.flatMap fun s => nodeStatements factory (placeIn registry values.orEmpty s)) ++
        o.edges.flatMap fun e =>
          edgeRelationships factory o.directed e (o.placesOf registry values.orEmpty e) := by
  rw [bind_output (stop?_eq_none_of_bind h), Output.statements_andThen (failure?_join_nodes _),
    Output.statements_join failure?_of_mem_nodes, Output.statements_join (failure?_of_mem_edges h),
    List.flatMap_map, List.flatMap_map]
  congr 1
  · exact List.flatMap_congr fun s _ => statements_nodesAt _
  · apply List.flatMap_congr
    intro e he
    exact statements_edgeAt fun link hlink => conflict?_eq_none_of_bind h he hlink

end Outline

namespace Dot.Graph

open Binding

variable {σ : Type}

/-- The nodes of a graph: the records of each site in turn. -/
def nodeStatements (factory : Factory σ) (registry : Registry) (values : Value) (g : Dot.Graph) :
    List σ :=
  (Outline.ofGraph g).sites.flatMap fun s =>
    Binding.nodeStatements factory (placeIn registry values.orEmpty s)

def placesOf (registry : Registry) (values : Value) (g : Dot.Graph) (e : EdgeDeclaration) :
    List Place :=
  (Outline.ofGraph g).placesOf registry values.orEmpty e

lemma relationshipType_eq (e : EdgeDeclaration) :
    Outline.relationshipType e = ((e.get? "label").filter (· != "")).getD "Relationship" := by
  unfold Outline.relationshipType Outline.orElse
  cases e.get? "label" with
  | none => rfl
  | some label =>
    rw [Option.filter_some]
    by_cases hempty : label = "" <;> simp [hempty, Outline.genericType]

lemma direction_eq (directed : Bool) (e : EdgeDeclaration) :
    Outline.direction directed e =
      if directed ∧ e.get? "dir" = some "forward" then .right
      else if directed ∧ e.get? "dir" = some "back" then .left else .none := by
  unfold Outline.direction Outline.declaredDirection
  cases directed with
  | false => simp
  | true =>
    simp only [if_true, true_and]
    split
    · next hforward => rw [if_pos hforward]
    · next hback => rw [hback, if_neg (by decide), if_pos rfl]
    · next hforward hback => rw [if_neg hforward, if_neg hback]

/-- What edges give. Behind the nodes of a graph stand the relationships of its edges, of the type
that is the label of the edge, or the generic type if it has none, and in the direction that the
edge gives in a directed graph. Those of an edge relate each pair of neighbours in the part of its
chain in front of the first absent name: every record on the left with every record on the right,
where one side has a single record. What comes behind an absent name adds nothing, and it is never
the reason for a cardinality error. -/
theorem relationships_of_resolved_part (factory : Factory σ) (registry : Registry) (values : Value)
    (g : Dot.Graph) :
    (∀ statements gaps,
      (g.bind factory registry values).output.result = .ok (statements, gaps) →
        statements = g.nodeStatements factory registry values ++
          g.edgeDeclarations.flatMap (fun e =>
            edgeRelationships factory g.directed e (g.placesOf registry values e)) ∧
        ∀ e ∈ g.edgeDeclarations,
          Outline.relationshipType e =
            ((e.get? "label").filter (· != "")).getD "Relationship" ∧
          Outline.direction g.directed e =
            (if g.directed ∧ e.get? "dir" = some "forward" then .right
              else if g.directed ∧ e.get? "dir" = some "back" then .left else .none) ∧
          ∀ link ∈ links (resolvedPart (g.placesOf registry values e)),
            (link.1.records.length = 1 ∧
              (link.1.records ×ˢ link.2.records).map Prod.snd = link.2.records) ∨
            (link.2.records.length = 1 ∧
              (link.1.records ×ˢ link.2.records).map Prod.fst = link.1.records)) ∧
    ∀ c, (g.bind factory registry values).output.failure? = some (.cardinality c) →
      ∃ e ∈ g.edgeDeclarations, ∃ link ∈ links (resolvedPart (g.placesOf registry values e)),
        conflict? e link.1 link.2 = some c := by
  constructor
  · intro statements gaps h
    obtain ⟨hok, hstatements, -⟩ := Output.result_eq_ok_iff.1 h
    refine ⟨hstatements.symm.trans (Outline.statements_bind hok), ?_⟩
    intro e he
    refine ⟨relationshipType_eq e, direction_eq g.directed e, fun link hlink => ?_⟩
    obtain ⟨hleft, hright⟩ := mem_of_mem_links hlink
    exact product_of_conflict?_eq_none (Outline.conflict?_eq_none_of_bind hok he hlink)
      (records_ne_nil_of_mem_resolvedPart hleft) (records_ne_nil_of_mem_resolvedPart hright)
  · intro c h
    rw [bind, Outline.failure?_bind] at h
    cases hs : (lookUp factory.rejection? registry values.orEmpty
        (Outline.ofGraph g).names).stop? with
    | some stop =>
      obtain ⟨name, failure⟩ := stop
      rw [hs] at h
      obtain rfl : failure = .cardinality c := Option.some.inj h
      exact absurd hs (stop?_ne_cardinality _ name c)
    | none =>
      rw [hs, Option.map_none, Option.none_or, Option.map_eq_some_iff] at h
      obtain ⟨c', hc, hc'⟩ := h
      obtain rfl : c' = c := BindFailure.cardinality.inj hc'
      obtain ⟨e, he, hconflict⟩ := List.exists_of_findSome?_eq_some hc
      obtain ⟨link, hlink, hlink'⟩ := List.exists_of_findSome?_eq_some hconflict
      exact ⟨e, he, link, hlink, hlink'⟩

/-- A chain over five names with a label, and data that leaves its middle name absent. -/
def gappedChain : Dot.Graph :=
  ⟨.digraph, "", false,
    [.edge ⟨["A", "B", "C", "D", "E"], [⟨"label", "KNOWS"⟩, ⟨"dir", "forward"⟩]⟩]⟩

def gappedValues : Value :=
  let record (n : Int) : Value := .map [(.text "id", .int n)]
  .map [(.text "A", record 1), (.text "B", .list [record 2, record 3]),
    (.text "D", .list [record 4, record 5]), (.text "E", .list [record 6, record 7])]

/-- The two pairs in front of the gap are related, and the several records on both sides of the
link behind it do no harm. -/
theorem relationships_of_gappedChain :
    ∃ statements gaps,
      (gappedChain.bind .descriptors .empty gappedValues).output.result = .ok (statements, gaps) ∧
      statements = gappedChain.nodeStatements .descriptors .empty gappedValues ++
        [.relationship ⟨.int 1, .one "A", "id"⟩ ⟨.int 2, .one "B", "id"⟩ "KNOWS" .right,
          .relationship ⟨.int 1, .one "A", "id"⟩ ⟨.int 3, .one "B", "id"⟩ "KNOWS" .right] := by
  have h := (relationships_of_resolved_part .descriptors .empty gappedValues gappedChain).1 _ _ rfl
  exact ⟨_, _, rfl, h.1.trans rfl⟩

end Dot.Graph

end DotBinding

import DotBinding.Proofs.Binding.Calls
import DotBinding.Proofs.Binding.Endpoints

/-!
# Edges written from either end

An edge between two names may be written from either end. Its names are found at the same sites
either way, since only declarations make them, and the same names are resolved, at most in another
order. The relationships of an edge are made with the records on its left outermost. Turned round
they still come in the same order, since an edge with several records on both sides has none.
-/

namespace DotBinding

open Dot (EdgeDeclaration Statement)

lemma firstOccurrences_perm {a b : List String} (h : ∀ s, s ∈ a ↔ s ∈ b) :
    (firstOccurrences a).Perm (firstOccurrences b) := by
  rw [List.perm_ext_iff_of_nodup (nodup_firstOccurrences a) (nodup_firstOccurrences b)]
  intro s
  rw [mem_firstOccurrences, mem_firstOccurrences]
  exact h s

/-- With a single item on one side, pairs come in the same order from either side. -/
lemma product_eq_map_swap {α β : Type} {l : List α} {r : List β}
    (h : l.length = 1 ∨ r.length = 1) : r ×ˢ l = (l ×ˢ r).map Prod.swap := by
  rcases h with hl | hr
  · obtain ⟨a, rfl⟩ := List.length_eq_one_iff.1 hl
    simp [SProd.sprod, List.product, ← List.map_eq_flatMap]
  · obtain ⟨b, rfl⟩ := List.length_eq_one_iff.1 hr
    simp [SProd.sprod, List.product, ← List.map_eq_flatMap]

/-- An edge written from its other end. -/
def Dot.EdgeDeclaration.reversed (e : EdgeDeclaration) : EdgeDeclaration :=
  { e with chain := e.chain.reverse }

@[simp] lemma Dot.EdgeDeclaration.reversed_reversed (e : EdgeDeclaration) :
    e.reversed.reversed = e := by
  simp [reversed]

/-- A relationship with its ends exchanged, of the same type and with the same direction. -/
def Descriptor.exchanged : Descriptor → Descriptor
  | .node label idName props => .node label idName props
  | .relationship left right type direction => .relationship right left type direction

/-- The error of the same edge, written from its other end. -/
def CardinalityError.exchanged (c : CardinalityError) : CardinalityError :=
  ⟨c.right, c.left, c.chain.reverse, c.rightCount, c.leftCount⟩

@[simp] lemma CardinalityError.exchanged_exchanged (c : CardinalityError) :
    c.exchanged.exchanged = c := by
  simp [exchanged]

namespace Binding

variable {directed : Bool} {e : EdgeDeclaration}

/-! ## One link -/

lemma links_resolvedPart_swap (left right : Place) :
    links (resolvedPart [right, left]) = (links (resolvedPart [left, right])).map Prod.swap := by
  rw [← neighbours_eq_links, ← neighbours_eq_links, neighbours, neighbours, Bool.or_comm]
  split <;> rfl

lemma conflict?_reversed (left right : Place) :
    conflict? e.reversed right left =
      (conflict? e left right).map CardinalityError.exchanged := by
  unfold conflict?
  by_cases h : 1 < left.records.length ∧ 1 < right.records.length
  · rw [if_pos h, if_pos h.symm]
    rfl
  · rw [if_neg h, if_neg fun h' => h h'.symm]
    rfl

lemma findSome?_conflict?_reversed (left right : Place) :
    ((links (resolvedPart [right, left])).findSome? fun link =>
        conflict? e.reversed link.1 link.2) =
      ((links (resolvedPart [left, right])).findSome? fun link =>
        conflict? e link.1 link.2).map CardinalityError.exchanged := by
  rw [links_resolvedPart_swap, List.findSome?_map, List.map_findSome?]
  congr 1
  funext link
  exact conflict?_reversed link.1 link.2

lemma edgeRelationships_reversed {left right : Place}
    (h : ∀ link ∈ links (resolvedPart [left, right]), conflict? e link.1 link.2 = none) :
    edgeRelationships .descriptors directed e.reversed [right, left] =
      (edgeRelationships .descriptors directed e [left, right]).map Descriptor.exchanged := by
  unfold edgeRelationships
  rw [links_resolvedPart_swap, List.flatMap_map, List.map_flatMap]
  apply List.flatMap_congr
  intro link hlink
  obtain ⟨hleft, hright⟩ := mem_of_mem_links hlink
  have hone : link.1.records.length = 1 ∨ link.2.records.length = 1 :=
    (product_of_conflict?_eq_none (h link hlink) (records_ne_nil_of_mem_resolvedPart hleft)
      (records_ne_nil_of_mem_resolvedPart hright)).imp And.left And.left
  rw [Prod.fst_swap, Prod.snd_swap, product_eq_map_swap hone, List.map_map, List.map_map]
  rfl

end Binding

namespace Outline

open Binding

variable {registry : Registry} {values : Value} {o : Outline} {e : EdgeDeclaration} {a b : String}

/-- The two names of an edge are at the same places from either end. -/
lemma exists_places (h : e.chain = [a, b]) :
    ∃ left right, o.placesOf registry values e = [left, right] ∧
      o.placesOf registry values e.reversed = [right, left] := by
  refine ⟨placeIn registry values (o.site a), placeIn registry values (o.site b), ?_, ?_⟩
  · rw [placesOf, h]
    rfl
  · rw [placesOf, EdgeDeclaration.reversed, h]
    rfl

lemma edgeConflict?_reversed (h : e.chain = [a, b]) :
    o.edgeConflict? registry values e.reversed =
      (o.edgeConflict? registry values e).map CardinalityError.exchanged := by
  obtain ⟨left, right, hplaces, hplaces'⟩ := exists_places h
  rw [edgeConflict?, edgeConflict?, hplaces, hplaces']
  exact findSome?_conflict?_reversed left right

end Outline

namespace Dot.Graph

open Binding

variable {σ : Type}

/-- The edges at the top level of a list of statements. -/
def edgesIn (statements : List Statement) : List EdgeDeclaration :=
  statements.filterMap fun
    | .edge e => some e
    | _ => none

/-- A graph with an edge between the given statements at its top level. Every graph is one of these
at each of its edges. -/
def withEdge (g : Dot.Graph) (before : List Statement) (e : EdgeDeclaration)
    (after : List Statement) : Dot.Graph :=
  { g with statements := before ++ .edge e :: after }

/-- What an edge of a graph gives by itself. -/
def edgeOutput (factory : Factory σ) (registry : Registry) (values : Value) (g : Dot.Graph)
    (e : EdgeDeclaration) : Output σ :=
  edgeAt factory g.directed e (g.placesOf registry values e)

/-- The relationships that an edge of a graph emits. -/
def emitted (registry : Registry) (values : Value) (g : Dot.Graph) (e : EdgeDeclaration) :
    List Descriptor :=
  (g.edgeOutput .descriptors registry values e).statements

/-- Whether a binding fails at an edge: its error is the one of the edge, and none of the edges in
front of it has one. -/
def FailsAt (factory : Factory σ) (registry : Registry) (values : Value) (g : Dot.Graph)
    (before : List Statement) (e : EdgeDeclaration) (c : CardinalityError) : Prop :=
  (g.bind factory registry values).output.failure? = some (.cardinality c) ∧
    (∀ earlier ∈ edgesIn before,
      (g.edgeOutput factory registry values earlier).failure? = none) ∧
    (g.edgeOutput factory registry values e).failure? = some (.cardinality c)

variable {factory : Factory σ} {registry : Registry} {values : Value} {g : Dot.Graph}
  {before after : List Statement} {e : EdgeDeclaration}

/-! ## Failures, edge by edge -/

lemma failure?_edgeOutput (e : EdgeDeclaration) :
    (g.edgeOutput factory registry values e).failure? =
      ((Outline.ofGraph g).edgeConflict? registry values.orEmpty e).map .cardinality :=
  failure?_edgeAt _

/-- A binding that resolves all names fails at the first edge that fails by itself. -/
lemma failure?_bind_of_stop?
    (h : (lookUp factory.rejection? registry values.orEmpty g.mentionedNames).stop? = none) :
    (g.bind factory registry values).output.failure? =
      g.edgeDeclarations.findSome? fun e => (g.edgeOutput factory registry values e).failure? := by
  rw [bind, Outline.failure?_bind, names_ofGraph, h, Option.map_none, Option.none_or,
    List.map_findSome?]
  congr 1
  funext e
  exact (failure?_edgeOutput e).symm

lemma failure?_bind_eq_none_iff :
    (g.bind factory registry values).output.failure? = none ↔
      (lookUp factory.rejection? registry values.orEmpty g.mentionedNames).stop? = none ∧
        ∀ e ∈ g.edgeDeclarations, (g.edgeOutput factory registry values e).failure? = none := by
  constructor
  · intro h
    have hstop := Outline.stop?_eq_none_of_bind h
    rw [names_ofGraph] at hstop
    rw [failure?_bind_of_stop? hstop, List.findSome?_eq_none_iff] at h
    exact ⟨hstop, h⟩
  · rintro ⟨hstop, hedges⟩
    rw [failure?_bind_of_stop? hstop, List.findSome?_eq_none_iff]
    exact hedges

/-- A binding without failures gives its nodes and behind them what its edges emit. -/
lemma statements_eq_emitted (h : (g.bind .descriptors registry values).output.failure? = none) :
    (g.bind .descriptors registry values).output.statements =
      g.nodeStatements .descriptors registry values ++
        g.edgeDeclarations.flatMap (g.emitted registry values) := by
  refine (Outline.statements_bind h).trans (congrArg _ (List.flatMap_congr fun e he => ?_))
  exact (statements_edgeAt fun _ hlink => Outline.conflict?_eq_none_of_bind h he hlink).symm

lemma emitted_eq (h : (Outline.ofGraph g).edgeConflict? registry values.orEmpty e = none) :
    g.emitted registry values e =
      edgeRelationships .descriptors g.directed e (g.placesOf registry values e) := by
  rw [Outline.edgeConflict?, List.findSome?_eq_none_iff] at h
  exact statements_edgeAt h

/-! ## Another edge in its place -/

lemma edgeDeclarations_withEdge (e : EdgeDeclaration) :
    (g.withEdge before e after).edgeDeclarations = edgesIn before ++ e :: edgesIn after := by
  change edgesIn (before ++ .edge e :: after) = _
  rw [edgesIn, List.filterMap_append]
  rfl

lemma nodeDeclarations_withEdge (e e' : EdgeDeclaration) :
    (g.withEdge before e' after).nodeDeclarations =
      (g.withEdge before e after).nodeDeclarations := by
  simp [nodeDeclarations, withEdge]

/-- The names of an edge are found at sites that no edge has a part in. -/
lemma placesOf_withEdge (e e' : EdgeDeclaration) :
    (g.withEdge before e' after).placesOf registry values =
      (g.withEdge before e after).placesOf registry values := by
  funext other
  unfold placesOf Outline.placesOf Outline.site Outline.declaration? Outline.ofGraph
  rw [nodeDeclarations_withEdge e e']

lemma edgeOutput_withEdge (e e' : EdgeDeclaration) :
    (g.withEdge before e' after).edgeOutput factory registry values =
      (g.withEdge before e after).edgeOutput factory registry values := by
  funext other
  rw [edgeOutput, edgeOutput, placesOf_withEdge e e']
  rfl

lemma emitted_withEdge (e e' : EdgeDeclaration) :
    (g.withEdge before e' after).emitted registry values =
      (g.withEdge before e after).emitted registry values := by
  funext other
  rw [emitted, emitted, edgeOutput_withEdge e e']

/-! ## An edge turned round -/

lemma mem_chains_reversed (name : String) :
    name ∈ (g.withEdge before e.reversed after).edgeDeclarations.flatMap (·.chain) ↔
      name ∈ (g.withEdge before e after).edgeDeclarations.flatMap (·.chain) := by
  simp [edgeDeclarations_withEdge, EdgeDeclaration.reversed]

lemma stop?_reversed {refusal? : Record → Option PropertyError}
    (h : (lookUp refusal? registry values (g.withEdge before e after).mentionedNames).stop? =
      none) :
    (lookUp refusal? registry values (g.withEdge before e.reversed after).mentionedNames).stop? =
      none := by
  rw [stop?_eq_none_iff] at h ⊢
  intro name hname
  apply h name
  rw [mentionedNames, mem_firstOccurrences, List.mem_append] at hname ⊢
  rwa [mem_chains_reversed, nodeDeclarations_withEdge e] at hname

/-- The nodes are the same ones. Those of its two names change places if the edge is the first to
mention both. -/
lemma nodeStatements_reversed :
    ((g.withEdge before e.reversed after).nodeStatements factory registry values).Perm
      ((g.withEdge before e after).nodeStatements factory registry values) := by
  have hundeclared : (g.withEdge before e.reversed after).undeclaredNames.Perm
      (g.withEdge before e after).undeclaredNames := by
    apply firstOccurrences_perm
    intro name
    rw [List.mem_filter, List.mem_filter, mem_chains_reversed, nodeDeclarations_withEdge e]
  apply List.Perm.flatMap_right
  rw [Outline.sites, Outline.sites, impliedNames_ofGraph, impliedNames_ofGraph]
  exact (List.Perm.of_eq (congrArg _ (nodeDeclarations_withEdge e _))).append
    (hundeclared.map _)

/-- An edge without a conflict emits the same relationships from either end. -/
lemma emitted_reversed {a b : String} (h : e.chain = [a, b])
    (hok : (Outline.ofGraph g).edgeConflict? registry values.orEmpty e = none) :
    g.emitted registry values e.reversed =
      (g.emitted registry values e).map Descriptor.exchanged := by
  have hok' : (Outline.ofGraph g).edgeConflict? registry values.orEmpty e.reversed = none := by
    rw [Outline.edgeConflict?_reversed h, hok]
    rfl
  rw [emitted_eq hok, emitted_eq hok', placesOf, placesOf]
  obtain ⟨left, right, hplaces, hplaces'⟩ := Outline.exists_places h
  rw [Outline.edgeConflict?, hplaces, List.findSome?_eq_none_iff] at hok
  rw [hplaces, hplaces']
  exact edgeRelationships_reversed hok

lemma FailsAt.reversed {c : CardinalityError} {a b : String} (hchain : e.chain = [a, b])
    (h : (g.withEdge before e after).FailsAt factory registry values before e c) :
    (g.withEdge before e.reversed after).FailsAt factory registry values before e.reversed
      c.exchanged := by
  obtain ⟨hbind, hearlier, hedge⟩ := h
  have hstop := Outline.stop?_eq_none_of_cardinality hbind
  rw [names_ofGraph] at hstop
  rw [← edgeOutput_withEdge e e.reversed] at hearlier hedge
  have hedge' : ((g.withEdge before e.reversed after).edgeOutput factory registry values
      e.reversed).failure? = some (.cardinality c.exchanged) := by
    rw [failure?_edgeOutput, Option.map_eq_some_iff] at hedge
    obtain ⟨c', hc', hfailure⟩ := hedge
    obtain rfl : c' = c := BindFailure.cardinality.inj hfailure
    rw [failure?_edgeOutput, Outline.edgeConflict?_reversed hchain, hc']
    rfl
  refine ⟨?_, hearlier, hedge'⟩
  rw [failure?_bind_of_stop? (stop?_reversed hstop), edgeDeclarations_withEdge,
    List.findSome?_append, List.findSome?_eq_none_iff.2 hearlier, List.findSome?_cons, hedge']
  rfl

lemma failure?_bind_reversed {a b : String} (hchain : e.chain = [a, b])
    (h : ((g.withEdge before e after).bind factory registry values).output.failure? = none) :
    ((g.withEdge before e.reversed after).bind factory registry values).output.failure? =
      none := by
  rw [failure?_bind_eq_none_iff, edgeDeclarations_withEdge, List.forall_mem_append,
    List.forall_mem_cons, ← edgeOutput_withEdge e e.reversed] at h
  obtain ⟨hstop, hearlier, hedge, hlater⟩ := h
  rw [failure?_bind_eq_none_iff, edgeDeclarations_withEdge, List.forall_mem_append,
    List.forall_mem_cons]
  refine ⟨stop?_reversed hstop, hearlier, ?_, hlater⟩
  rw [failure?_edgeOutput, Option.map_eq_none_iff] at hedge ⊢
  rw [Outline.edgeConflict?_reversed hchain, hedge]
  rfl

/-- What a binding of a graph with an edge returns, in parts. -/
lemma result_bind_withEdge
    (h : ((g.withEdge before e after).bind factory registry values).output.failure? = none) :
    ∃ gaps, ((g.withEdge before e after).bind factory registry values).output.result =
      .ok (((g.withEdge before e after).nodeStatements .descriptors registry values ++
        ((edgesIn before).flatMap ((g.withEdge before e after).emitted registry values) ++
          (g.withEdge before e after).emitted registry values e ++
          (edgesIn after).flatMap ((g.withEdge before e after).emitted registry values))).map
        factory.write, gaps) := by
  obtain ⟨created, hcreated, hwritten⟩ :=
    exists_created (Output.result_eq_ok_iff.2 ⟨h, rfl, rfl⟩)
  obtain ⟨hok, rfl, -⟩ := Output.result_eq_ok_iff.1 hcreated
  refine ⟨_, Output.result_eq_ok_iff.2 ⟨h, ?_, rfl⟩⟩
  rw [hwritten, statements_eq_emitted hok, edgeDeclarations_withEdge, List.flatMap_append,
    List.flatMap_cons, List.append_assoc (List.flatMap _ _)]

/-- An edge between two names can be written from either end. A binding fails at the edge with a
cardinality error if and only if it fails there with the edge turned round, and then the two counts
are exchanged. It succeeds if and only if it does with the edge turned round. The edge then emits
the same relationships in the same order, with their ends exchanged and of the same type and
direction. The relationships of all other edges are the same, and so are the nodes up to their
order. -/
theorem bind_of_reversed_edge (factory : Factory σ) (registry : Registry) (values : Value)
    (g g' : Dot.Graph) (before after : List Statement) (e : EdgeDeclaration) (a b : String)
    (hg : g.statements = before ++ .edge e :: after) (hchain : e.chain = [a, b])
    (hg' : g' = { g with statements := before ++ .edge e.reversed :: after }) :
    (∀ c, g.FailsAt factory registry values before e c ↔
      g'.FailsAt factory registry values before e.reversed c.exchanged) ∧
    ((g.bind factory registry values).output.failure? = none ↔
      (g'.bind factory registry values).output.failure? = none) ∧
    ((g.bind factory registry values).output.failure? = none →
      (∃ gaps, (g.bind factory registry values).output.result =
        .ok ((g.nodeStatements .descriptors registry values ++
          ((edgesIn before).flatMap (g.emitted registry values) ++
            g.emitted registry values e ++
            (edgesIn after).flatMap (g.emitted registry values))).map factory.write, gaps)) ∧
      (∃ gaps', (g'.bind factory registry values).output.result =
        .ok ((g'.nodeStatements .descriptors registry values ++
          ((edgesIn before).flatMap (g.emitted registry values) ++
            (g.emitted registry values e).map Descriptor.exchanged ++
            (edgesIn after).flatMap (g.emitted registry values))).map factory.write, gaps')) ∧
      (g'.nodeStatements .descriptors registry values).Perm
        (g.nodeStatements .descriptors registry values)) := by
  have hself : g.withEdge before e after = g := by rw [withEdge, ← hg]
  have hchain' : e.reversed.chain = [b, a] := by
    rw [EdgeDeclaration.reversed, hchain]
    rfl
  change g' = g.withEdge before e.reversed after at hg'
  subst hg'
  refine ⟨fun c => ⟨fun h => ?_, fun h => ?_⟩, ⟨fun h => ?_, fun h => ?_⟩, fun h => ?_⟩
  · rw [← hself] at h
    exact h.reversed hchain
  · have hback := h.reversed hchain'
    rwa [EdgeDeclaration.reversed_reversed, CardinalityError.exchanged_exchanged, hself] at hback
  · rw [← hself] at h
    exact failure?_bind_reversed hchain h
  · have hback := failure?_bind_reversed hchain' h
    rwa [EdgeDeclaration.reversed_reversed, hself] at hback
  · rw [← hself] at h
    have hresult := result_bind_withEdge h
    have hresult' := result_bind_withEdge (failure?_bind_reversed hchain h)
    have hedge : ((g.withEdge before e after).edgeOutput factory registry values e).failure? =
        none := by
      apply (failure?_bind_eq_none_iff.1 h).2
      rw [edgeDeclarations_withEdge]
      exact List.mem_append_right _ List.mem_cons_self
    rw [failure?_edgeOutput, Option.map_eq_none_iff] at hedge
    rw [emitted_withEdge e e.reversed, emitted_reversed hchain hedge] at hresult'
    rw [hself] at hresult hresult'
    exact ⟨hresult, hresult', hself ▸ nodeStatements_reversed⟩

/-- An edge that points back, from a name of its own to a declared one, between two others. -/
def backEdge : EdgeDeclaration :=
  ⟨["A", "B"], [⟨"label", "T"⟩, ⟨"dir", "back"⟩]⟩

def beforeBackEdge : List Statement :=
  [.node ⟨"B", [⟨"label", "X"⟩]⟩, .edge ⟨["B", "C"], []⟩]

def afterBackEdge : List Statement :=
  [.edge ⟨["C", "A"], []⟩]

def backGraph (e : EdgeDeclaration) : Dot.Graph :=
  ⟨.digraph, "", false, beforeBackEdge ++ .edge e :: afterBackEdge⟩

def backValues (as bs : List Int) : Value :=
  let record (n : Int) : Value := .map [(.text "id", .int n)]
  .map [(.text "A", .list (as.map record)), (.text "B", .list (bs.map record)),
    (.text "C", record 9)]

/-- With several records on both sides the edge fails from its other end too. With a single one on
the right its relationships come in the order of the records that are then on the right. -/
theorem bind_of_backEdge :
    (backGraph backEdge.reversed).FailsAt .descriptors .empty (backValues [1, 2] [3, 4, 5])
      beforeBackEdge backEdge.reversed ⟨"B", "A", ["B", "A"], 3, 2⟩ ∧
    ∃ statements gaps, ((backGraph backEdge.reversed).bind .descriptors .empty
        (backValues [1, 2] [3])).output.result = .ok (statements, gaps) ∧
      statements.drop 5 =
        [.relationship ⟨.int 3, .one "X", "id"⟩ ⟨.int 1, .one "A", "id"⟩ "T" .left,
          .relationship ⟨.int 3, .one "X", "id"⟩ ⟨.int 2, .one "A", "id"⟩ "T" .left,
          .relationship ⟨.int 9, .one "C", "id"⟩ ⟨.int 1, .one "A", "id"⟩ "Relationship" .none,
          .relationship ⟨.int 9, .one "C", "id"⟩ ⟨.int 2, .one "A", "id"⟩ "Relationship"
            .none] := by
  constructor
  · have hfails : (backGraph backEdge).FailsAt .descriptors .empty (backValues [1, 2] [3, 4, 5])
        beforeBackEdge backEdge ⟨"A", "B", ["A", "B"], 2, 3⟩ := by
      refine ⟨rfl, ?_, rfl⟩
      intro earlier hearlier
      obtain rfl := List.mem_singleton.1 hearlier
      rfl
    exact ((bind_of_reversed_edge .descriptors .empty _ (backGraph backEdge) _ beforeBackEdge
      afterBackEdge backEdge "A" "B" rfl rfl rfl).1 _).1 hfails
  · obtain ⟨-, ⟨gaps', hresult⟩, -⟩ := (bind_of_reversed_edge .descriptors .empty
      (backValues [1, 2] [3]) (backGraph backEdge) _ beforeBackEdge afterBackEdge backEdge "A" "B"
      rfl rfl rfl).2.2 rfl
    exact ⟨_, gaps', hresult, rfl⟩

end Dot.Graph

end DotBinding

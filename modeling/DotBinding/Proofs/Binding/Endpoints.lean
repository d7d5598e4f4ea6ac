import DotBinding.Proofs.Binding.Factories
import DotBinding.Proofs.Binding.Statements

/-!
# Ends of relationships

Every end of a relationship is a node that the same binding creates before it, with the same
label, id name and id. Nodes and ends are both made at the sites of an outline, and an edge finds
a name at a site where nodes are made. The argument is about what is to be created; how it is
written is up to a factory, and a factory only rewrites it one by one.
-/

namespace DotBinding

open Dot (EdgeDeclaration)

namespace Descriptor

/-- Whether a list of nodes and relationships creates a node that an end fits: one with its label,
its id name, and its id under that name. -/
def Creates (created : List Descriptor) (endpoint : Endpoint) : Prop :=
  ∃ props, .node endpoint.label endpoint.idName props ∈ created ∧
    props.get endpoint.idName = endpoint.id

/-- Whether both ends of each relationship are created before it. -/
def Anchored (created : List Descriptor) : Prop :=
  ∀ before left right type direction after,
    created = before ++ .relationship left right type direction :: after →
      Creates before left ∧ Creates before right

def isNode : Descriptor → Bool
  | .node _ _ _ => true
  | .relationship _ _ _ _ => false

lemma Creates.append {created more : List Descriptor} {endpoint : Endpoint}
    (h : Creates created endpoint) : Creates (created ++ more) endpoint := by
  obtain ⟨props, hnode, hid⟩ := h
  exact ⟨props, List.mem_append_left more hnode, hid⟩

lemma anchored_append {nodes relationships : List Descriptor}
    (hnodes : ∀ d ∈ nodes, d.isNode = true)
    (hends : ∀ left right type direction, .relationship left right type direction ∈ relationships →
      Creates nodes left ∧ Creates nodes right) :
    Anchored (nodes ++ relationships) := by
  intro before left right type direction after hsplit
  have hmem : .relationship left right type direction ∈ relationships := by
    have hall : .relationship left right type direction ∈ nodes ++ relationships := by
      rw [hsplit]
      exact List.mem_append_right _ List.mem_cons_self
    refine (List.mem_append.1 hall).resolve_left ?_
    intro hin
    exact absurd (hnodes _ hin) (by simp [isNode])
  obtain ⟨hleft, hright⟩ := hends left right type direction hmem
  -- a relationship is no node, so all nodes stand in front of it
  obtain ⟨middle, rfl⟩ : ∃ middle, before = nodes ++ middle := by
    rcases List.append_eq_append_iff.1 hsplit with ⟨middle, hbefore, -⟩ | ⟨middle, hcut, hrest⟩
    · exact ⟨middle, hbefore⟩
    · cases middle with
      | nil => exact ⟨[], by simpa using hcut.symm⟩
      | cons d middle =>
        obtain ⟨rfl, -⟩ := List.cons.inj hrest
        have hin : .relationship left right type direction ∈ nodes := by
          rw [hcut]
          exact List.mem_append_right _ List.mem_cons_self
        exact absurd (hnodes _ hin) (by simp [isNode])
  exact ⟨hleft.append, hright.append⟩

end Descriptor

namespace Outline

open Binding Descriptor

variable {registry : Registry} {values : Value} {o : Outline}

/-- The record at a place of an edge is created as a node of its site. -/
lemma creates_endpointAt {e : EdgeDeclaration} (he : e ∈ o.edges) {p : Place}
    (hp : p ∈ o.placesOf registry values e) {r : Record} (hr : r ∈ p.records) :
    Creates (o.sites.flatMap fun s => nodeStatements .descriptors (placeIn registry values s))
      (endpointAt p.site r) := by
  obtain ⟨name, hname, rfl⟩ := List.mem_map.1 hp
  refine ⟨r, ?_, rfl⟩
  rw [List.mem_flatMap]
  exact ⟨o.site name, o.site_mem_sites he hname, List.mem_map_of_mem hr⟩

/-- What a binding creates leaves no relationship dangling. -/
theorem anchored_statements (h : (o.bind .descriptors registry values).output.failure? = none) :
    Anchored (o.bind .descriptors registry values).output.statements := by
  rw [statements_bind h]
  apply anchored_append
  · intro d hd
    obtain ⟨s, -, hs⟩ := List.mem_flatMap.1 hd
    obtain ⟨r, -, rfl⟩ := List.mem_map.1 hs
    rfl
  · intro left right type direction hd
    obtain ⟨e, he, hedge⟩ := List.mem_flatMap.1 hd
    obtain ⟨link, hlink, hpair⟩ := List.mem_flatMap.1 hedge
    obtain ⟨pair, hrecords, heq⟩ := List.mem_map.1 hpair
    obtain ⟨hl, hr⟩ := List.mem_product.1 hrecords
    obtain ⟨hleft, hright⟩ := mem_of_mem_links hlink
    have hsub := (resolvedPart_sublist (o.placesOf registry values.orEmpty e)).subset
    injection heq with hl' hr'
    subst hl' hr'
    exact ⟨creates_endpointAt he (hsub hleft) hl, creates_endpointAt he (hsub hright) hr⟩

end Outline

namespace Dot.Graph

open Descriptor

variable {σ : Type}

/-- What a binding returns is, one by one, the written form of what it creates. -/
lemma exists_created {factory : Factory σ} {registry : Registry} {values : Value} {g : Dot.Graph}
    {statements : List σ} {gaps : List Diagnostic}
    (h : (g.bind factory registry values).output.result = .ok (statements, gaps)) :
    ∃ created, (g.bind .descriptors registry values).output.result = .ok (created, gaps) ∧
      statements = created.map factory.write := by
  obtain ⟨hok, hstatements, hgaps⟩ := Output.result_eq_ok_iff.1 h
  have hwrite := Outline.bind_write (Outline.stop?_eq_none_of_bind hok)
  rw [bind, hwrite] at hok hstatements hgaps
  exact ⟨_, Output.result_eq_ok_iff.2 ⟨hok, rfl, hgaps⟩, hstatements.symm⟩

/-- No relationship dangles. Whatever a binding returns is, one by one, the written form of what it
creates, and each end of a relationship among that is a node created before it: with the label
and the id name of the end, and with its id under that name. -/
theorem statements_anchored (factory : Factory σ) (registry : Registry) (values : Value)
    (g : Dot.Graph) (statements : List σ) (gaps : List Diagnostic)
    (h : (g.bind factory registry values).output.result = .ok (statements, gaps)) :
    ∃ created, (g.bind .descriptors registry values).output.result = .ok (created, gaps) ∧
      statements = created.map factory.write ∧ Anchored created := by
  obtain ⟨hok, hstatements, hgaps⟩ := Output.result_eq_ok_iff.1 h
  have hwrite := Outline.bind_write (Outline.stop?_eq_none_of_bind hok)
  have hcreated : (g.bind .descriptors registry values).output.failure? = none := by
    rw [bind, hwrite] at hok
    exact hok
  rw [bind, hwrite] at hstatements hgaps
  refine ⟨_, Output.result_eq_ok_iff.2 ⟨hcreated, rfl, hgaps⟩, hstatements.symm, ?_⟩
  exact Outline.anchored_statements hcreated

/-- A name declared twice, with another label and id name the second time, and an edge from it to a
name that is not declared. -/
def twiceDeclared : Dot.Graph :=
  ⟨.digraph, "", false,
    [.node ⟨"A", [⟨"label", "X"⟩, ⟨"idName", "key"⟩]⟩, .node ⟨"A", [⟨"label", "Y"⟩]⟩,
      .edge ⟨["A", "B"], []⟩]⟩

def twiceDeclaredValues : Value :=
  .map [(.text "A", .map [(.text "key", .int 1)]),
    (.text "B", .list [.map [(.text "id", .int 2)],
      .map [(.text "label", .list [.text "L", .text "M"])]])]

/-- Both relationships start at the node of the first declaration, and the last end has no id. -/
theorem twiceDeclared_anchored :
    ∃ created gaps,
      (twiceDeclared.bind .descriptors .empty twiceDeclaredValues).output.result =
        .ok (created, gaps) ∧
      created[4]? = some (.relationship ⟨.int 1, .one "X", "key"⟩ ⟨.int 2, .one "B", "id"⟩
        "Relationship" .none) ∧
      created[5]? = some (.relationship ⟨.int 1, .one "X", "key"⟩ ⟨.null, .many ["L", "M"], "id"⟩
        "Relationship" .none) ∧
      Anchored created := by
  refine ⟨_, _, rfl, rfl, rfl, ?_⟩
  obtain ⟨created, hcreated, -, hanchored⟩ :=
    statements_anchored .descriptors .empty twiceDeclaredValues twiceDeclared _ _ rfl
  obtain ⟨rfl, -⟩ := Prod.mk.inj (Except.ok.inj hcreated)
  exact hanchored

end Dot.Graph

end DotBinding

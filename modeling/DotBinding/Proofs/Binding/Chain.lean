import DotBinding.Proofs.Binding.Lookup
import Mathlib.Data.List.Basic
import Mathlib.Data.List.ProdSigma

/-!
# Relationships along a chain

An edge is followed along its chain up to the first name without records. This file gives the
relationships of an edge in closed form: each link of that part relates every record on its left
to every record on its right. A link with several records on both sides is the only thing that
makes an edge fail.
-/

namespace DotBinding

open Dot (EdgeDeclaration)

namespace Binding

/-- Each item of a list with the one behind it. -/
def links {α : Type} (items : List α) : List (α × α) :=
  items.zip items.tail

/-- The part of a chain in front of its first name without records. -/
def resolvedPart (places : List Place) : List Place :=
  places.takeWhile (!·.isEmpty)

def relationshipOf {σ : Type} (factory : Factory σ) (directed : Bool) (e : EdgeDeclaration)
    (left right : Place) (pair : Record × Record) : σ :=
  factory.relationship (endpointAt left.site pair.1) (endpointAt right.site pair.2)
    (Outline.relationshipType e) (Outline.direction directed e)

/-- The relationships of an edge: link by link, every record on the left with every record on the
right, those on the left outermost. -/
def edgeRelationships {σ : Type} (factory : Factory σ) (directed : Bool) (e : EdgeDeclaration)
    (places : List Place) : List σ :=
  (links (resolvedPart places)).flatMap fun link =>
    (link.1.records ×ˢ link.2.records).map (relationshipOf factory directed e link.1 link.2)

/-- The error of a link with several records on both sides. -/
def conflict? (e : EdgeDeclaration) (left right : Place) : Option CardinalityError :=
  if 1 < left.records.length ∧ 1 < right.records.length then
    some ⟨left.site.name, right.site.name, e.chain, left.records.length, right.records.length⟩
  else none

variable {σ : Type} {factory : Factory σ} {directed : Bool} {e : EdgeDeclaration}

lemma links_eq_nil {α : Type} {items : List α} (h : items.length < 2) : links items = [] := by
  match items, h with
  | [], _ => rfl
  | [_], _ => rfl

lemma resolvedPart_cons_of_isEmpty {p : Place} (h : p.isEmpty = true) (rest : List Place) :
    resolvedPart (p :: rest) = [] := by
  simp [resolvedPart, h]

lemma resolvedPart_cons_of_not_isEmpty {p : Place} (h : p.isEmpty = false) (rest : List Place) :
    resolvedPart (p :: rest) = p :: resolvedPart rest := by
  simp [resolvedPart, h]

lemma neighbours_eq_links (places : List Place) :
    neighbours places = links (resolvedPart places) := by
  induction places with
  | nil => rfl
  | cons left rest ih =>
    cases hl : left.isEmpty with
    | true =>
      rw [resolvedPart_cons_of_isEmpty hl]
      cases rest with
      | nil => rfl
      | cons right rest => simp [neighbours, hl, links]
    | false =>
      rw [resolvedPart_cons_of_not_isEmpty hl]
      cases rest with
      | nil => rfl
      | cons right rest =>
        cases hr : right.isEmpty with
        | true =>
          rw [resolvedPart_cons_of_isEmpty hr]
          simp [neighbours, hr, links]
        | false =>
          rw [resolvedPart_cons_of_not_isEmpty hr] at ih ⊢
          simp [neighbours, hl, hr, ih, links]

lemma mem_of_mem_links {α : Type} {items : List α} {link : α × α} (h : link ∈ links items) :
    link.1 ∈ items ∧ link.2 ∈ items := by
  have hmem := List.of_mem_zip (a := link.1) (b := link.2) h
  exact ⟨hmem.1, List.mem_of_mem_tail hmem.2⟩

lemma resolvedPart_sublist (places : List Place) : (resolvedPart places).Sublist places :=
  List.takeWhile_sublist _

lemma records_ne_nil_of_mem_resolvedPart {places : List Place} {p : Place}
    (h : p ∈ resolvedPart places) : p.records ≠ [] := by
  unfold resolvedPart at h
  have hp := List.all_eq_true.1 List.all_takeWhile p h
  intro hnil
  rw [Place.isEmpty, hnil] at hp
  simp at hp

/-- With too few places that have records there is no link to follow. -/
lemma length_resolvedPart_lt {places : List Place} {n : Nat}
    (h : (places.filter (!·.isEmpty)).length < n) : (resolvedPart places).length < n := by
  refine Nat.lt_of_le_of_lt ?_ h
  have hsub := (List.takeWhile_sublist (fun p : Place => !p.isEmpty) (l := places)).filter
    (fun p : Place => !p.isEmpty)
  rw [List.filter_eq_self.2 (List.all_eq_true.1 List.all_takeWhile)] at hsub
  exact hsub.length_le

/-- With one record on a side, every record of the other side is related once, in its own order. -/
lemma product_of_conflict?_eq_none {left right : Place} (h : conflict? e left right = none)
    (hl : left.records ≠ []) (hr : right.records ≠ []) :
    (left.records.length = 1 ∧ (left.records ×ˢ right.records).map Prod.snd = right.records) ∨
      (right.records.length = 1 ∧ (left.records ×ˢ right.records).map Prod.fst = left.records) := by
  have hlen : ¬(1 < left.records.length ∧ 1 < right.records.length) := by
    intro hmany
    simp [conflict?, hmany] at h
  have hl' := List.length_pos_iff.2 hl
  have hr' := List.length_pos_iff.2 hr
  by_cases hone : left.records.length = 1
  · obtain ⟨l, hrec⟩ := List.length_eq_one_iff.1 hone
    refine Or.inl ⟨hone, ?_⟩
    rw [hrec, List.product_cons, List.nil_product]
    simp [Function.comp_def]
  · have hone' : right.records.length = 1 := by omega
    obtain ⟨r, hrec⟩ := List.length_eq_one_iff.1 hone'
    refine Or.inr ⟨hone', ?_⟩
    simp [hrec, SProd.sprod, List.product, List.map_flatMap]

/-- Neighbours without a conflict are related pair by pair. -/
lemma relateAll_eq_join {left right : Place} (h : conflict? e left right = none) :
    relateAll factory directed e left right = .join ((left.records ×ˢ right.records).map fun pair =>
      relate factory directed e left right pair.1 pair.2) := by
  have hlen : ¬(1 < left.records.length ∧ 1 < right.records.length) := by
    intro hmany
    simp [conflict?, hmany] at h
  rw [relateAll, if_neg hlen]
  simp only [SProd.sprod, List.product, List.map_flatMap, List.map_map]
  rfl

lemma failure?_of_mem_pairs (left right : Place) (pairs : List (Record × Record)) :
    ∀ out ∈ pairs.map (fun pair => relate factory directed e left right pair.1 pair.2),
      out.failure? = none := by
  intro out hout
  obtain ⟨pair, -, rfl⟩ := List.mem_map.1 hout
  rfl

lemma failure?_relateAll (left right : Place) :
    (relateAll factory directed e left right).failure? =
      (conflict? e left right).map .cardinality := by
  cases hconflict : conflict? e left right with
  | none =>
    rw [relateAll_eq_join hconflict, Output.failure?_join,
      List.findSome?_eq_none_iff.2 (failure?_of_mem_pairs left right _)]
    rfl
  | some c =>
    unfold conflict? at hconflict
    unfold relateAll
    split at hconflict
    · next hmany =>
      rw [if_pos hmany, ← hconflict]
      rfl
    · cases hconflict

lemma statements_relateAll {left right : Place} (h : conflict? e left right = none) :
    (relateAll factory directed e left right).statements =
      (left.records ×ˢ right.records).map (relationshipOf factory directed e left right) := by
  rw [relateAll_eq_join h, Output.statements_join (failure?_of_mem_pairs left right _),
    List.flatMap_map, List.map_eq_flatMap]
  rfl

lemma failure?_of_mem_neighbours {places : List Place}
    (h : ∀ link ∈ links (resolvedPart places), conflict? e link.1 link.2 = none) :
    ∀ out ∈ (neighbours places).map (fun link => relateAll factory directed e link.1 link.2),
      out.failure? = none := by
  intro out hout
  obtain ⟨link, hlink, rfl⟩ := List.mem_map.1 hout
  rw [neighbours_eq_links] at hlink
  rw [failure?_relateAll, h link hlink, Option.map_none]

lemma failure?_edgeAt (places : List Place) :
    (edgeAt factory directed e places).failure? =
      ((links (resolvedPart places)).findSome? fun link =>
        conflict? e link.1 link.2).map .cardinality := by
  rw [edgeAt, Output.failure?_andThen]
  change Option.or none _ = _
  rw [Option.none_or]
  split
  · next hshort =>
    rw [links_eq_nil (length_resolvedPart_lt hshort)]
    rfl
  · rw [Output.failure?_join, neighbours_eq_links, List.map_findSome?, List.findSome?_map]
    congr 1
    funext link
    exact failure?_relateAll link.1 link.2

/-- An edge that does not fail gives the relationships of its resolved part, also where it is
reported as too short. -/
theorem statements_edgeAt {places : List Place}
    (h : ∀ link ∈ links (resolvedPart places), conflict? e link.1 link.2 = none) :
    (edgeAt factory directed e places).statements =
      edgeRelationships factory directed e places := by
  rw [edgeAt, Output.statements_andThen rfl]
  change [] ++ _ = _
  rw [List.nil_append, edgeRelationships]
  split
  · next hshort =>
    rw [links_eq_nil (length_resolvedPart_lt hshort)]
    rfl
  · rw [Output.statements_join (failure?_of_mem_neighbours h), neighbours_eq_links,
      List.flatMap_map]
    apply List.flatMap_congr
    intro link hlink
    exact statements_relateAll (h link hlink)

end Binding

end DotBinding

import DotBinding.Proofs.Binding.Lookup

/-!
# The names that a graph mentions

The sites of a graph are visited declarations first and implied names behind them, while the text
mentions names in its declarations and along its chains. Both give the same names in the same
order. An edge asks only for names that have a site, so every name has been asked for before the
first edge is looked at.
-/

namespace DotBinding

/-! ## First occurrences -/

lemma filter_firstOccurrences (p : String → Bool) (names : List String) :
    (firstOccurrences names).filter p = firstOccurrences (names.filter p) := by
  induction names with
  | nil => rfl
  | cons s rest ih =>
    rw [firstOccurrences]
    cases hp : p s with
    | true =>
      rw [List.filter_cons_of_pos hp, List.filter_cons_of_pos hp, firstOccurrences, ← ih,
        List.filter_filter, List.filter_filter]
      simp only [Bool.and_comm]
    | false =>
      rw [List.filter_cons_of_neg (by simp [hp]), List.filter_cons_of_neg (by simp [hp]), ← ih,
        List.filter_filter]
      apply List.filter_congr
      intro t _
      by_cases ht : t = s
      · simp [ht, hp]
      · simp [ht]

lemma nodup_firstOccurrences (names : List String) : (firstOccurrences names).Nodup := by
  induction names with
  | nil => exact List.nodup_nil
  | cons s rest ih =>
    rw [firstOccurrences, List.nodup_cons]
    exact ⟨by simp, ih.filter _⟩

/-- Behind some names, only those that are not among them occur for the first time. -/
lemma firstOccurrences_append (a b : List String) :
    firstOccurrences (a ++ b) =
      firstOccurrences a ++ firstOccurrences (b.filter fun s => !a.contains s) := by
  induction a with
  | nil =>
    have hall : b.filter (fun s => !([] : List String).contains s) = b :=
      List.filter_eq_self.2 fun _ _ => rfl
    rw [List.nil_append, hall]
    rfl
  | cons s rest ih =>
    rw [List.cons_append, firstOccurrences, ih, firstOccurrences, List.filter_append,
      List.cons_append]
    congr 2
    rw [filter_firstOccurrences, List.filter_filter]
    congr 1
    apply List.filter_congr
    intro t _
    by_cases ht : t = s <;> simp [ht]

lemma firstOccurrences_append_of_subset {a b : List String} (h : b ⊆ a) :
    firstOccurrences (a ++ b) = firstOccurrences a := by
  have hnone : b.filter (fun s => !a.contains s) = [] := by
    rw [List.filter_eq_nil_iff]
    intro s hs
    simp [h hs]
  rw [firstOccurrences_append, hnone, firstOccurrences, List.append_nil]

lemma firstOccurrences_concat (names : List String) (s : String) :
    firstOccurrences (names ++ [s]) =
      if s ∈ firstOccurrences names then firstOccurrences names
      else firstOccurrences names ++ [s] := by
  simp only [mem_firstOccurrences]
  split
  · next hs => exact firstOccurrences_append_of_subset (by simpa using hs)
  · next hs =>
    rw [firstOccurrences_append]
    simp [hs, firstOccurrences]

lemma firstOccurrences_of_nodup {names : List String} (h : names.Nodup) :
    firstOccurrences names = names := by
  induction names with
  | nil => rfl
  | cons s rest ih =>
    obtain ⟨hs, hrest⟩ := List.nodup_cons.1 h
    rw [firstOccurrences, ih hrest, List.filter_eq_self.2]
    intro t ht
    simp only [bne_iff_ne, ne_eq]
    rintro rfl
    exact hs ht

/-! ## Names of an outline -/

namespace Outline

variable (o : Outline)

lemma contains_declared (name : String) :
    (o.nodes.map (·.name)).contains name = (o.declaration? name).isSome := by
  rw [declaration?, List.isSome_find?, List.contains_eq_any_beq, List.any_map]
  congr 1
  funext d
  exact Bool.beq_comm

lemma name_site (name : String) : (o.site name).name = name := by
  unfold site
  cases h : o.declaration? name with
  | none => rfl
  | some d =>
    unfold declaration? at h
    have hname := List.find?_some h
    exact eq_of_beq hname

lemma map_name_sites :
    o.sites.map (·.name) = o.nodes.map (·.name) ++ o.impliedNames := by
  rw [sites, List.map_append, List.map_map, List.map_map]
  exact congrArg _ (List.map_id _)

lemma chain_subset_sites {e : Dot.EdgeDeclaration} (he : e ∈ o.edges) :
    e.chain ⊆ o.sites.map (·.name) := by
  intro name hname
  exact List.mem_map.2 ⟨o.site name, o.site_mem_sites he hname, o.name_site name⟩

end Outline

namespace Dot.Graph

/-- The names that the declarations and the chains at the top level mention, in the order of first
mention: all the declared names, and then those of the chains. -/
def mentionedNames (g : Graph) : List String :=
  firstOccurrences (g.nodeDeclarations.map (·.name) ++ g.edgeDeclarations.flatMap (·.chain))

lemma mem_mentionedNames {g : Graph} {name : String} :
    name ∈ g.mentionedNames ↔
      (∃ d ∈ g.nodeDeclarations, d.name = name) ∨ ∃ e ∈ g.edgeDeclarations, name ∈ e.chain := by
  rw [mentionedNames, mem_firstOccurrences, List.mem_append, List.mem_map, List.mem_flatMap]

/-- The names that edges at the top level mention without a declaration there, in the order of first
mention. -/
def undeclaredNames (g : Graph) : List String :=
  firstOccurrences ((g.edgeDeclarations.flatMap (·.chain)).filter fun name =>
    !(g.nodeDeclarations.map (·.name)).contains name)

lemma impliedNames_ofGraph (g : Graph) :
    (Outline.ofGraph g).impliedNames = g.undeclaredNames := by
  rw [Outline.impliedNames, undeclaredNames]
  congr 2
  funext name
  have hcontains := (Outline.ofGraph g).contains_declared name
  change (g.nodeDeclarations.map (·.name)).contains name = _ at hcontains
  rw [hcontains, Option.not_isSome]

lemma mentionedNames_eq (g : Graph) :
    g.mentionedNames = firstOccurrences (g.nodeDeclarations.map (·.name)) ++ g.undeclaredNames :=
  firstOccurrences_append _ _

/-- The names that a binding resolves are the mentioned ones, in this order. -/
theorem names_ofGraph (g : Graph) : (Outline.ofGraph g).names = g.mentionedNames := by
  have hundeclared : g.undeclaredNames.filter
      (fun s => !(g.nodeDeclarations.map (·.name)).contains s) = g.undeclaredNames := by
    rw [undeclaredNames, filter_firstOccurrences, List.filter_filter]
    simp only [Bool.and_self]
  have hnodup : g.undeclaredNames.Nodup := nodup_firstOccurrences _
  rw [Outline.names, Outline.map_name_sites, impliedNames_ofGraph, mentionedNames_eq]
  change firstOccurrences (g.nodeDeclarations.map (·.name) ++ g.undeclaredNames) = _
  rw [firstOccurrences_append, hundeclared, firstOccurrences_of_nodup hnodup]

end Dot.Graph

end DotBinding

import DotBinding.Proofs.Binding.Dependence

/-!
# Names handed out

Whatever a binding hands to its factory is named: labels have at least one name, and no label, id
name or type is empty. A text of the graph that is empty gives way to another, down to a generic
one, and so does the label of a record where it comes to nothing. Whatever else a record holds as
its label is shown as a text with something in it. This is so for every statement that is made, also
where the binding fails later.
-/

namespace DotBinding

open Dot (EdgeDeclaration)

/-! ## Values as texts -/

namespace Binary64

lemma positional_ne_nil (digits : List Char) (point : Int) : positional digits point ≠ [] := by
  unfold positional
  split
  · simp
  · split <;> simp

lemma magnitudeText_ne_nil (rank : Nat) : magnitudeText rank ≠ [] := by
  rw [magnitudeText]
  split
  · simp
  · generalize shortest rank = decimal
    obtain ⟨number, grid⟩ := decimal
    dsimp only
    split
    · exact positional_ne_nil _ _
    · simp [scientific, exponentText]

lemma toText_ne_empty (x : Binary64) : x.toText ≠ "" := by
  cases x with
  | finite negative rank =>
    cases negative <;> simp [toText, signed, magnitudeText_ne_nil]
  | infinite negative => cases negative <;> decide
  | nan => decide

end Binary64

namespace Value

lemma listed_ne_empty {opening : String} (h : opening ≠ "") (closing : String)
    (parts : List String) : listed opening closing parts ≠ "" := by
  simp [listed, h]

lemma literal_ne_empty (v : Value) : v.literal ≠ "" := by
  cases v with
  | null => decide
  | bool b => cases b <;> decide
  | int n =>
    cases n with
    | ofNat n => exact Nat.repr_ne_empty
    | negSucc n => simp [literal, Int.repr]
  | float x => exact x.toText_ne_empty
  | text s => simp [literal, Text.quoted]
  | list items => exact listed_ne_empty (by decide) _ _
  | tuple items =>
    rw [literal]
    split
    · simp
    · exact listed_ne_empty (by decide) _ _
  | map entries => exact listed_ne_empty (by decide) _ _

lemma display_ne_empty {v : Value} (h : v.isText "" = false) : v.display ≠ "" := by
  cases v with
  | text s => simpa [isText, display] using h
  | _ => exact literal_ne_empty _

end Value

/-! ## What is named -/

/-- Whether a label has a name, and no empty one. -/
def Label.IsNamed (label : Label) : Prop :=
  label.names ≠ [] ∧ ∀ name ∈ label.names, name ≠ ""

def Endpoint.IsNamed (endpoint : Endpoint) : Prop :=
  endpoint.label.IsNamed ∧ endpoint.idName ≠ ""

/-- Whether the label and the id name of a node are named, or the ends and the type of a
relationship. -/
def Descriptor.IsNamed : Descriptor → Prop
  | .node label idName _ => label.IsNamed ∧ idName ≠ ""
  | .relationship left right type _ => left.IsNamed ∧ right.IsNamed ∧ type ≠ ""

namespace Outline

lemma orElse_ne_empty {fallback : String} (h : fallback ≠ "") (s : Option String) :
    orElse s fallback ≠ "" := by
  unfold orElse
  split
  · split
    · exact h
    · assumption
  · exact h

/-- Whether a site has a label and an id name for its nodes. -/
def Site.IsNamed (s : Site) : Prop :=
  s.label ≠ "" ∧ s.idName ≠ ""

lemma isNamed_declared (d : Dot.NodeDeclaration) : (Site.declared d).IsNamed :=
  ⟨orElse_ne_empty (orElse_ne_empty (by decide) _) _, orElse_ne_empty (by decide) _⟩

lemma isNamed_implied (name : String) : (Site.implied name).IsNamed := by
  have hlabel : orElse (some name) genericLabel ≠ "" := orElse_ne_empty (by decide) _
  have hid : defaultIdName ≠ "" := by decide
  exact ⟨hlabel, hid⟩

variable {o : Outline}

lemma isNamed_of_mem_sites {s : Site} (h : s ∈ o.sites) : s.IsNamed := by
  rcases List.mem_append.mp h with hdeclared | himplied
  · obtain ⟨d, -, rfl⟩ := List.mem_map.mp hdeclared
    exact isNamed_declared d
  · obtain ⟨name, -, rfl⟩ := List.mem_map.mp himplied
    exact isNamed_implied name

lemma isNamed_site (name : String) : (o.site name).IsNamed := by
  unfold site
  split
  · exact isNamed_declared _
  · exact isNamed_implied _

end Outline

namespace Binding

lemma isNamed_of_ownLabel? {r : Record} {label : Label} (h : ownLabel? r = some label) :
    label.IsNamed := by
  have hitems (items : List Value) (hlabels : items.filter isLabel ≠ []) :
      (Label.many ((items.filter isLabel).map Value.display)).IsNamed := by
    refine ⟨by simpa [Label.names] using hlabels, ?_⟩
    intro name hname
    obtain ⟨v, hv, rfl⟩ := List.mem_map.mp hname
    have hlabel := (List.mem_filter.mp hv).2
    rw [isLabel, Bool.not_eq_true', Bool.or_eq_false_iff] at hlabel
    exact Value.display_ne_empty hlabel.2
  have hone (v : Value) (hv : v.isText "" = false) : (Label.one v.display).IsNamed := by
    refine ⟨by simp [Label.names], ?_⟩
    intro name hname
    obtain rfl := List.mem_singleton.mp hname
    exact Value.display_ne_empty hv
  unfold ownLabel? at h
  cases hv : r.get "label" with
  | null => simp [hv] at h
  | text s =>
    simp only [hv] at h
    split at h
    · cases h
    · next hs =>
      obtain rfl := Option.some.inj h
      exact hone (.text s) (by simpa [Value.isText] using hs)
  | list items | tuple items =>
    simp only [hv] at h
    split at h
    · cases h
    · next hlabels =>
      obtain rfl := Option.some.inj h
      exact hitems items hlabels
  | _ =>
    rw [hv] at h
    obtain rfl := Option.some.inj h
    exact hone _ rfl

lemma isNamed_labelAt {site : Outline.Site} (h : site.label ≠ "") (r : Record) :
    (labelAt site r).IsNamed := by
  unfold labelAt
  cases hown : ownLabel? r with
  | some label => exact isNamed_of_ownLabel? hown
  | none => exact ⟨by simp [Label.names], by simpa [Label.names] using h⟩

lemma isNamed_endpointAt {site : Outline.Site} (h : site.IsNamed) (r : Record) :
    (endpointAt site r).IsNamed :=
  ⟨isNamed_labelAt h.1 r, h.2⟩

end Binding

/-! ## All statements of a binding -/

namespace Output

variable {σ : Type} {P : σ → Prop}

lemma forall_andThen {a b : Output σ} (ha : ∀ s ∈ a.statements, P s)
    (hb : ∀ s ∈ b.statements, P s) : ∀ s ∈ (a.andThen b).statements, P s := by
  intro s hs
  unfold andThen at hs
  split at hs
  · exact ha s hs
  · exact (List.mem_append.mp hs).elim (ha s) (hb s)

lemma forall_join {parts : List (Output σ)} (h : ∀ a ∈ parts, ∀ s ∈ a.statements, P s) :
    ∀ s ∈ (join parts).statements, P s := by
  induction parts with
  | nil => intro s hs; cases hs
  | cons a rest ih =>
    obtain ⟨ha, hrest⟩ := List.forall_mem_cons.mp h
    exact forall_andThen ha (ih hrest)

end Output

namespace Binding

variable {σ : Type} {factory : Factory σ} {P : σ → Prop}

lemma forall_nodes {sites : List Outline.Site} (found : List (String × List Record))
    (h : ∀ s ∈ sites, ∀ r, P (factory.node (labelAt s r) s.idName r)) :
    ∀ s ∈ (nodes factory found sites).statements, P s := by
  apply Output.forall_join
  intro out hout
  obtain ⟨site, hsite, rfl⟩ := List.mem_map.mp hout
  rw [statements_nodesAt]
  intro s hs
  obtain ⟨r, -, rfl⟩ := List.mem_map.mp hs
  exact h site hsite r

lemma forall_relateAll {directed : Bool} {e : EdgeDeclaration} {left right : Place}
    (h : ∀ l r, P (relationshipOf factory directed e left right (l, r))) :
    ∀ s ∈ (relateAll factory directed e left right).statements, P s := by
  unfold relateAll
  split
  · intro s hs
    cases hs
  · apply Output.forall_join
    intro out hout
    obtain ⟨l, -, hright⟩ := List.mem_flatMap.mp hout
    obtain ⟨r, -, rfl⟩ := List.mem_map.mp hright
    intro s hs
    obtain rfl := List.mem_singleton.mp hs
    exact h l r

lemma forall_edgeAt {directed : Bool} {e : EdgeDeclaration} {places : List Place}
    (h : ∀ left ∈ places, ∀ right ∈ places, ∀ l r,
      P (relationshipOf factory directed e left right (l, r))) :
    ∀ s ∈ (edgeAt factory directed e places).statements, P s := by
  apply Output.forall_andThen
  · intro s hs
    cases hs
  · split
    · intro s hs
      cases hs
    · apply Output.forall_join
      intro out hout
      obtain ⟨link, hlink, rfl⟩ := List.mem_map.mp hout
      rw [neighbours_eq_links] at hlink
      obtain ⟨hleft, hright⟩ := mem_of_mem_links hlink
      have hsub := (resolvedPart_sublist places).subset
      exact forall_relateAll (h _ (hsub hleft) _ (hsub hright))

end Binding

namespace Outline

open Binding

variable {σ : Type} {factory : Factory σ} {registry : Registry} {values : Value} {o : Outline}
  {P : σ → Prop}

/-- What holds of every node at a site and of every relationship between sites holds of all
statements of a binding, whether or not it fails. -/
theorem forall_statements_bind
    (hnode : ∀ s ∈ o.sites, ∀ r, P (factory.node (labelAt s r) s.idName r))
    (hrelationship : ∀ e ∈ o.edges, ∀ left ∈ e.chain, ∀ right ∈ e.chain, ∀ l r,
      P (factory.relationship (endpointAt (o.site left) l) (endpointAt (o.site right) r)
        (relationshipType e) (direction o.directed e))) :
    ∀ s ∈ (o.bind factory registry values).output.statements, P s := by
  unfold bind
  cases hs : (lookUp factory.rejection? registry values.orEmpty o.names).stop? with
  | some stop =>
    simp only [hs]
    apply Output.forall_andThen
    · apply forall_nodes
      intro s hs
      exact hnode s ((List.takeWhile_sublist _).subset hs)
    · intro s hs
      cases hs
  | none =>
    simp only [hs]
    apply Output.forall_andThen
    · exact forall_nodes _ hnode
    · apply Output.forall_join
      intro out hout
      obtain ⟨e, he, rfl⟩ := List.mem_map.mp hout
      apply forall_edgeAt
      intro left hleft right hright l r
      obtain ⟨name, hname, rfl⟩ := List.mem_map.mp hleft
      obtain ⟨name', hname', rfl⟩ := List.mem_map.mp hright
      exact hrelationship e he name hname name' hname' l r

end Outline

namespace Dot.Graph

variable {σ : Type}

/-- Everything that a binding hands to its factory is named, whatever names and labels the graph and
the records have. Its statements are, one by one, what the factory writes for these nodes and
relationships. -/
theorem bind_named (factory : Factory σ) (registry : Registry) (values : Value) (g : Dot.Graph) :
    g.bind factory registry values =
      (g.bind factory.recorder registry values).map factory.write ∧
    ∀ d ∈ (g.bind factory.recorder registry values).output.statements, d.IsNamed := by
  constructor
  · exact Outline.bind_map (factory.translates_write_recorder (Outline.ofGraph g).directed) rfl
  · apply Outline.forall_statements_bind
    · intro s hs r
      have hnamed := Outline.isNamed_of_mem_sites hs
      exact ⟨Binding.isNamed_labelAt hnamed.1 r, hnamed.2⟩
    · intro e _ left _ right _ l r
      refine ⟨Binding.isNamed_endpointAt (Outline.isNamed_site left) l,
        Binding.isNamed_endpointAt (Outline.isNamed_site right) r, ?_⟩
      exact Outline.orElse_ne_empty (by decide) _

/-- Every text of this graph is empty. -/
def namelessGraph : Graph :=
  ⟨.digraph, "", false, [.node ⟨"", [⟨"label", ""⟩, ⟨"idName", ""⟩]⟩,
    .edge ⟨["", ""], [⟨"label", ""⟩]⟩]⟩

/-- The record brings a list of labels, of which one counts. -/
def namelessValues : Value :=
  .map [(.text "", .map [(.text "label", .list [.null, .text "", .list []])])]

theorem bind_namelessGraph :
    (namelessGraph.bind .descriptors .empty namelessValues).output.statements =
      [.node (.many ["[]"]) "id" ⟨[(.text "label", .list [.null, .text "", .list []])]⟩,
        .relationship ⟨.null, .many ["[]"], "id"⟩ ⟨.null, .many ["[]"], "id"⟩ "Relationship"
          .none] ∧
    Descriptor.IsNamed (.relationship ⟨.null, .many ["[]"], "id"⟩ ⟨.null, .many ["[]"], "id"⟩
      "Relationship" .none) := by
  have hstatements : (namelessGraph.bind .descriptors .empty namelessValues).output.statements =
      [.node (.many ["[]"]) "id" ⟨[(.text "label", .list [.null, .text "", .list []])]⟩,
        .relationship ⟨.null, .many ["[]"], "id"⟩ ⟨.null, .many ["[]"], "id"⟩ "Relationship"
          .none] := rfl
  refine ⟨hstatements, (bind_named .descriptors .empty namelessValues namelessGraph).2 _ ?_⟩
  change _ ∈ (namelessGraph.bind .descriptors .empty namelessValues).output.statements
  rw [hstatements]
  exact List.mem_cons_of_mem _ (List.mem_singleton_self _)

end Dot.Graph

end DotBinding

import DotBinding.Proofs.Binding.Dependence
import DotBinding.Proofs.Binding.Failures

/-!
# Identity transforms

A transform that gives back what it is given makes no difference to what is bound: a name with it
has the same records as a name without a transform, and is at fault for the same reason. Only its
calls are new. A list is taken apart and put together on the way, and comes out as it was unless
there is another list among its items.
-/

namespace DotBinding

namespace Registry

/-- A transform that is registered is found under its name, and nothing else is found anew. -/
lemma find?_register {r out : Registry} {t : Transform} {name : String}
    (hname : t.name? = some name) (h : r.register t = .ok out) :
    r.find? name = none ∧
      ∀ other, out.find? other = if other = name then some t else r.find? other := by
  unfold register at h
  rw [hname] at h
  dsimp only at h
  split at h
  · cases h
  · next hnew =>
    obtain rfl := Except.ok.inj h
    have hnone : r.find? name = none := by
      unfold find?
      rw [List.lookup_eq_none_iff]
      intro entry hentry
      rw [bne_iff_ne]
      rintro rfl
      exact hnew (List.contains_iff_mem.2 (List.mem_map_of_mem hentry))
    refine ⟨hnone, ?_⟩
    intro other
    change (r.entries ++ [(name, t)]).lookup other = _
    rw [List.lookup_append]
    by_cases hother : other = name
    · subst hother
      rw [if_pos rfl, show r.entries.lookup other = none from hnone]
      simp
    · rw [if_neg hother, List.lookup_cons, beq_eq_false_iff_ne.2 hother]
      simp [find?]

end Registry

namespace RecordFunction

variable {f : RecordFunction}

lemma flatten_of_flat {items : List Value} (h : ∀ v ∈ items, v.items? = none) :
    flatten items = items := by
  induction items with
  | nil => rfl
  | cons v rest ih =>
    obtain ⟨hv, hrest⟩ := List.forall_mem_cons.1 h
    unfold flatten at ih ⊢
    rw [List.flatMap_cons, hv, ih hrest]
    rfl

lemma result_each_of_identity (h : ∀ v, f.apply v = .ok v) (items : List Value) :
    (Traced.each f.call items).result = .ok items := by
  induction items with
  | nil => rfl
  | cons v rest ih =>
    have hv : (f.call v).result = .ok v := h v
    simp [Traced.each, Traced.bind, Traced.map, hv, ih, Except.map]

/-- A value and what the identity makes of it stand for the same records. -/
lemma exists_applyTo_of_identity (h : ∀ v, f.apply v = .ok v) {v : Value}
    (hflat : ∀ items, v.items? = some items → ∀ item ∈ items, item.items? = none) (name : String) :
    ∃ out, (f.applyTo v).result = .ok out ∧
      Binding.recordsOf name out = Binding.recordsOf name v := by
  cases hitems : v.items? with
  | some items =>
    refine ⟨.list items, ?_, ?_⟩
    · rw [f.applyTo_of_items? hitems, Traced.map, result_each_of_identity h]
      exact congrArg (fun items => Except.ok (Value.list items))
        (flatten_of_flat (hflat items hitems))
    · rw [Binding.recordsOf_items rfl, Binding.recordsOf_items hitems]
  | none =>
    refine ⟨v, ?_, rfl⟩
    cases v with
    | null => rfl
    | list items | tuple items => cases hitems
    | _ => exact h _

end RecordFunction

namespace Dot.Graph

open Binding

variable {σ : Type}

/-- Identity transforms. A name without a transform is bound the same when a function that gives
back its argument is registered for it, as long as the bundle holds no list in a list under it:
the statements and the gaps are the same, and so is the error, with all that it says. -/
theorem output_bind_of_identity (factory : Factory σ) (g : Dot.Graph)
    {registry registry' : Registry} {name : String} (hfree : registry.find? name = none)
    {f : RecordFunction} (hidentity : ∀ v, f.apply v = .ok v)
    (hadded : ∀ other,
      registry'.find? other = if other = name then some (.ofNode name f) else registry.find? other)
    {bundle : Record}
    (hflat : ∀ items, (bundle.get name).items? = some items → ∀ item ∈ items, item.items? = none) :
    (g.bind factory registry' bundle.toValue).output =
      (g.bind factory registry bundle.toValue).output := by
  apply Outline.output_bind_congr
  intro other _
  have hempty : bundle.toValue.orEmpty = bundle.toValue := Value.orEmpty_map _
  rw [hempty]
  by_cases h : other = name
  · subst h
    obtain ⟨out, hout, hrecords⟩ := f.exists_applyTo_of_identity hidentity hflat other
    rw [resolve_of_find?_eq_none hfree,
      resolve_of_find?_eq_ofNode ((hadded other).trans (if_pos rfl)), ← hrecords]
    simp [Traced.check, Traced.mapError, hout, Except.mapError, Except.bind]
  · have hfind : registry'.find? other = registry.find? other := (hadded other).trans (if_neg h)
    unfold resolve valueOf
    rw [hfind]

def joinedGraph : Dot.Graph :=
  ⟨.graph, "", false, [.node ⟨"B", []⟩, .edge ⟨["A", "B"], []⟩]⟩

def joinedBundle (v : Value) : Record :=
  ⟨[(.text "A", .map [(.text "id", .int 1)]), (.text "B", v)]⟩

def tagA : RecordFunction :=
  ⟨"tag", fun _ => .ok (.map [(.text "id", .text "x")])⟩

/-- A tuple with a null and an empty record in it comes out as a list, and a number in a list is
found at fault, with the identity as without it. -/
theorem output_bind_joinedBundle :
    let tagged : Registry := ⟨[("A", .ofNode "A" tagA)]⟩
    let boundTo (registry : Registry) (v : Value) :=
      joinedGraph.bind .descriptors registry (joinedBundle v).toValue
    let mixed : Value := .tuple [.null, .map [(.text "id", .int 2)], .map []]
    let faulty : Value := .list [.map [], .int 3]
    tagged.find? "B" = none ∧
    (∀ v ∈ [mixed, faulty], ∀ items, ((joinedBundle v).get "B").items? = some items →
      ∀ item ∈ items, item.items? = none) ∧
    ∃ registry, tagged.register (.ofNode "B" ⟨"identity", .ok⟩) = .ok registry ∧
      (∀ v ∈ [mixed, faulty], (boundTo registry v).output = (boundTo tagged v).output) ∧
      (boundTo registry mixed).calls.map (·.function) =
        ["identity", "identity", "identity", "tag"] ∧
      (boundTo tagged mixed).output.statements.length = 5 ∧
      (boundTo tagged faulty).output.failure? = some (.shape (.item "B" (.int 3))) := by
  intro tagged boundTo mixed faulty
  have hflat : ∀ v ∈ [mixed, faulty], ∀ items, ((joinedBundle v).get "B").items? = some items →
      ∀ item ∈ items, item.items? = none := by
    intro v hv items hitems
    rcases List.mem_cons.1 hv with rfl | hv
    · obtain rfl := Option.some.inj hitems
      simp [Value.items?]
    · obtain rfl := List.mem_singleton.1 hv
      obtain rfl := Option.some.inj hitems
      simp [Value.items?]
  refine ⟨rfl, hflat, _, rfl, ?_, rfl, by decide +kernel, rfl⟩
  intro v hv
  have hname : (Transform.ofNode "B" ⟨"identity", .ok⟩).name? = some "B" := rfl
  obtain ⟨hfree, hadded⟩ := Registry.find?_register (r := tagged) hname rfl
  exact output_bind_of_identity .descriptors joinedGraph hfree (fun _ => rfl) hadded (hflat v hv)

end Dot.Graph

end DotBinding

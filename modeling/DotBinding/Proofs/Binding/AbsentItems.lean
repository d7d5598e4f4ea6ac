import DotBinding.Proofs.Binding.Dependence
import DotBinding.Proofs.Binding.Failures

/-!
# Absent items

A null among the items of a list is no item at all: it may be taken out or put in anywhere, and a
list of nulls is like a name without a value. An empty record is absent only when it stands alone.
As an item of a list it is a record like any other.
-/

namespace DotBinding

namespace Resolution

/-- Nulls are passed over, and so is the place they stand at. -/
lemma recordsOf_filter_isNull (name : String) (items : List Value) :
    recordsOf name (items.filter fun v => !v.isNull) = recordsOf name items := by
  induction items with
  | nil => rfl
  | cons v rest ih =>
    cases v with
    | null => exact ih
    | map entries => exact congrArg (Except.map (⟨entries⟩ :: ·)) ih
    | _ => rfl

end Resolution

namespace Binding

variable {registry : Registry} {bundle : Record} {name : String}

lemma recordsAt_of_find?_eq_none (h : registry.find? name = none) :
    recordsAt registry bundle.toValue name = (bundle.get name).records := by
  rw [recordsAt_eq_records, valueAt, valueOf, h]
  rfl

/-- Lists with the same items other than null stand for the same records, or for none for the same
reason. -/
lemma recordsOf_of_filter_eq {v v' : Value} {items items' : List Value} (hv : v.items? = some items)
    (hv' : v'.items? = some items')
    (h : items'.filter (fun v => !v.isNull) = items.filter fun v => !v.isNull) :
    recordsOf name v' = recordsOf name v := by
  rw [recordsOf_items hv, recordsOf_items hv', ← Resolution.recordsOf_filter_isNull name items', h,
    Resolution.recordsOf_filter_isNull]

lemma recordsOf_of_forall_isNull {v : Value} {items : List Value} (hv : v.items? = some items)
    (h : ∀ item ∈ items, item.isNull = true) : recordsOf name v = recordsOf name .null := by
  have hnone : (items.filter fun v => !v.isNull) = [] := by simpa using h
  rw [recordsOf_items hv, ← Resolution.recordsOf_filter_isNull, hnone]
  rfl

end Binding

lemma Value.records_of_items? {v : Value} {items : List Value} (hv : v.items? = some items)
    (h : ∀ item ∈ items, item.isNull = true ∨ item.record?.isSome = true) :
    v.records = items.filterMap record? := by
  have hall : (items.all fun item => item.isNull || item.record?.isSome) = true := by simpa using h
  cases v with
  | list items' | tuple items' =>
    obtain rfl := Option.some.inj hv
    exact if_pos hall
  | _ => cases hv

namespace Dot.Graph

open Binding

variable {σ : Type}

/-- Bundles that differ under one name only, which has no transform and stands for the same records
in both, are bound alike. -/
lemma bind_eq_of_recordsOf (factory : Factory σ) (g : Dot.Graph) {registry : Registry}
    (hown : registry.ReadsOwn) {name : String} (hfree : registry.find? name = none)
    {bundle bundle' : Record}
    (hother : ∀ other, other ≠ name → bundle'.get other = bundle.get other)
    (hrecords : recordsOf name (bundle'.get name) = recordsOf name (bundle.get name)) :
    g.bind factory registry bundle'.toValue = g.bind factory registry bundle.toValue := by
  apply bind_eq_of_resolve factory g hown hother
  rw [resolve_of_find?_eq_none hfree, resolve_of_find?_eq_none hfree, hrecords]

/-- Absent items. A name without a transform that holds a list is bound the same with and without
the nulls among its items, whatever the other items are, and as if it held nothing where they are
all null: this goes for the statements, the gaps, the calls and the error. An empty record is no
absent item. Each record of the list counts, the empty ones too. -/
theorem bind_of_absent_items (factory : Factory σ) (g : Dot.Graph) {registry : Registry}
    (hown : registry.ReadsOwn) {name : String} (hfree : registry.find? name = none)
    {bundle bundle' : Record}
    (hother : ∀ other, other ≠ name → bundle'.get other = bundle.get other)
    {items : List Value} (hitems : (bundle.get name).items? = some items) :
    (∀ items', (bundle'.get name).items? = some items' →
      (items'.filter fun v => !v.isNull) = (items.filter fun v => !v.isNull) →
      g.bind factory registry bundle'.toValue = g.bind factory registry bundle.toValue) ∧
    ((∀ v ∈ items, v.isNull = true) → bundle'.get name = .null →
      g.bind factory registry bundle'.toValue = g.bind factory registry bundle.toValue) ∧
    ((∀ v ∈ items, v.isNull = true ∨ v.record?.isSome = true) →
      recordsAt registry bundle.toValue name = items.filterMap Value.record?) := by
  refine ⟨fun items' hitems' hsame => ?_, fun hnull hmissing => ?_, fun hall => ?_⟩
  · exact bind_eq_of_recordsOf factory g hown hfree hother
      (recordsOf_of_filter_eq hitems hitems' hsame)
  · apply bind_eq_of_recordsOf factory g hown hfree hother
    rw [hmissing, recordsOf_of_forall_isNull hitems hnull]
  · rw [recordsAt_of_find?_eq_none hfree, Value.records_of_items? hitems hall]

/-- An edge from the records under a name to a single one. -/
def fannedGraph : Dot.Graph :=
  ⟨.digraph, "", false, [.edge ⟨["A", "B"], []⟩]⟩

def fannedBundle (v : Value) : Record :=
  ⟨[(.text "A", v), (.text "B", .map [(.text "id", .int 2)])]⟩

/-- The nulls make no difference, and the empty record between them is a node. -/
theorem bind_fannedBundle :
    Registry.ReadsOwn ⟨[]⟩ ∧ Registry.find? ⟨[]⟩ "A" = none ∧
    (∀ other, other ≠ "A" → (fannedBundle (.list [.map []])).get other =
      (fannedBundle (.list [.null, .map [], .null])).get other) ∧
    fannedGraph.bind .descriptors ⟨[]⟩ (fannedBundle (.list [.map []])).toValue =
      fannedGraph.bind .descriptors ⟨[]⟩ (fannedBundle (.list [.null, .map [], .null])).toValue ∧
    recordsAt ⟨[]⟩ (fannedBundle (.list [.null, .map [], .null])).toValue "A" = [.empty] := by
  have hown : Registry.ReadsOwn ⟨[]⟩ := by
    intro entry hentry
    cases hentry
  have hother : ∀ other, other ≠ "A" → (fannedBundle (.list [.map []])).get other =
      (fannedBundle (.list [.null, .map [], .null])).get other := by
    intro other hne
    have hA : Value.isText other (.text "A") = false := by simpa [Value.isText] using hne.symm
    simp only [fannedBundle, Record.get, Record.get?, List.find?_cons, hA]
  have hfree : Registry.find? ⟨[]⟩ "A" = none := rfl
  obtain ⟨hsame, -, hrecords⟩ :=
    bind_of_absent_items .descriptors fannedGraph hown hfree hother rfl
  refine ⟨hown, hfree, hother, hsame _ rfl rfl, (hrecords ?_).trans rfl⟩
  simp [Value.isNull, Value.record?]

/-- A single empty record is like no value and like an empty list, but a list that holds one is a
node, which the list without it does not give. -/
theorem bind_emptyRecord :
    let outputOf (v : Value) :=
      (fannedGraph.bind .descriptors ⟨[]⟩ (fannedBundle v).toValue).output
    outputOf (.map []) = outputOf .null ∧ outputOf (.list []) = outputOf .null ∧
    (outputOf (.list [])).diagnostics =
      [.missingNode "A", .missingEndpoint "A" "A -> B", .shortEdge "A -> B"] ∧
    (outputOf (.list [])).statements = [.node (.one "B") "id" ⟨[(.text "id", .int 2)]⟩] ∧
    (outputOf (.list [.map []])).diagnostics = [.missingId "A" "A -> B" "id"] ∧
    (outputOf (.list [.map []])).statements =
      [.node (.one "A") "id" .empty, .node (.one "B") "id" ⟨[(.text "id", .int 2)]⟩,
        .relationship ⟨.null, .one "A", "id"⟩ ⟨.int 2, .one "B", "id"⟩ "Relationship" .none] :=
  ⟨rfl, rfl, rfl, rfl, rfl, rfl⟩

end Dot.Graph

end DotBinding

import DotBinding.Proofs.Binding.AbsentItems

/-!
# Single records

A list that holds a single record is bound like this record by itself, wherever its name is
mentioned. The two go different ways through a transform and the shape of its result, and meet again
at the records that they stand for. A transform has to give a record with something in it, a list or
null for this, or no result at all. An empty record is absent by itself and a record in a list, and
a fault of any other value is reported in other words.
-/

namespace DotBinding

/-- Whether a value stands for the same records by itself and as the only result in a list. -/
def Value.keepsInList : Value → Bool
  | null | list _ | tuple _ => true
  | map entries => !entries.isEmpty
  | _ => false

/-- A computation on each item of a list with a single one is the computation on this item. -/
lemma Traced.each_singleton {ε α β : Type} (f : α → Traced ε β) (a : α) :
    each f [a] = (f a).map fun b => [b] := by
  rw [each, bind]
  cases h : (f a).result with
  | error e => simp [map, h, Except.map]
  | ok b => simp [map, h, Except.map, each, pure, ofExcept]

namespace RecordFunction

/-- What a function makes of a list with a single item is what it makes of the item, in a list. -/
lemma applyTo_of_items?_eq_singleton (f : RecordFunction) {v item : Value}
    (h : v.items? = some [item]) :
    f.applyTo v = (f.call item).map fun out => .list (flatten [out]) := by
  rw [f.applyTo_of_items? h, Traced.each_singleton]
  unfold call Traced.map
  cases f.apply item <;> rfl

end RecordFunction

namespace Binding

open RecordFunction

variable {refusal? : Record → Option PropertyError} {registry : Registry} {bundle : Record}
  {name : String}

lemma recordsOf_flatten_singleton_iff (name : String) (v : Value) :
    recordsOf name (.list (flatten [v])) = recordsOf name v ↔ v.keepsInList = true := by
  cases v with
  | null => exact iff_of_true rfl rfl
  | map entries =>
    cases entries with
    | nil => exact iff_of_false (fun h => nomatch Except.ok.inj h) Bool.false_ne_true
    | cons e rest => exact iff_of_true rfl rfl
  | list items | tuple items =>
    refine iff_of_true ?_ rfl
    rw [recordsOf_items rfl, recordsOf_items rfl, flatten, List.flatMap_singleton]
    rfl
  | _ =>
    -- the one is about an item of the list, and the other about the whole value
    exact iff_of_false (fun h => nomatch BindFailure.shape.inj (Except.error.inj h))
      Bool.false_ne_true

/-- A record and the list of it alone resolve a name alike. -/
lemma resolve_of_singleton (hown : registry.ReadsOwn) {bundle' : Record}
    {entries : List (Value × Value)} (hne : entries ≠ [])
    (hrecord : bundle.get name = .map entries)
    (hlist : (bundle'.get name).items? = some [.map entries])
    (hresult : ∀ f v, registry.find? name = some (.ofNode name f) →
      f.apply (.map entries) = .ok v → v.keepsInList = true) :
    resolve refusal? registry bundle'.toValue name =
      resolve refusal? registry bundle.toValue name := by
  cases hfind : registry.find? name with
  | none =>
    have hkeeps : (Value.map entries).keepsInList = true := by simpa [Value.keepsInList] using hne
    have hrecords : recordsOf name (bundle'.get name) = recordsOf name (bundle.get name) := by
      rw [hrecord, ← (recordsOf_flatten_singleton_iff name _).2 hkeeps, recordsOf_items hlist,
        recordsOf_items rfl]
      rfl
    rw [resolve_of_find?_eq_none hfind, resolve_of_find?_eq_none hfind, hrecords]
  | some t =>
    obtain ⟨f, rfl⟩ := hown.of_find? hfind
    have hcall : f.applyTo (.map entries) = f.call (.map entries) := rfl
    rw [resolve_of_find?_eq_ofNode hfind, resolve_of_find?_eq_ofNode hfind, hrecord, hcall,
      f.applyTo_of_items?_eq_singleton hlist]
    unfold call Traced.map Traced.mapError Traced.check
    cases happly : f.apply (.map entries) with
    | error e => rfl
    | ok v =>
      have hrecords := (recordsOf_flatten_singleton_iff name v).2 (hresult f v hfind happly)
      exact congrArg (fun found => Traced.mk _ (found >>= writable refusal?)) hrecords

end Binding

namespace Dot.Graph

open Binding

variable {σ : Type}

/-- Single records. A name that holds a record with something in it is bound the same as with the
list or the tuple of this record alone: the statements, the gaps, the calls and the error are the
same, wherever the name stands and whatever it is joined to. If the name has a transform, its
function has to fail for the record, or to give null, a record with something in it or a list. -/
theorem bind_of_single_record (factory : Factory σ) (g : Dot.Graph) {registry : Registry}
    (hown : registry.ReadsOwn) {name : String} {bundle bundle' : Record}
    (hother : ∀ other, other ≠ name → bundle'.get other = bundle.get other)
    {entries : List (Value × Value)} (hne : entries ≠ [])
    (hrecord : bundle.get name = .map entries)
    (hlist : bundle'.get name = .list [.map entries] ∨ bundle'.get name = .tuple [.map entries])
    (hresult : ∀ f v, registry.find? name = some (.ofNode name f) →
      f.apply (.map entries) = .ok v → v.keepsInList = true) :
    g.bind factory registry bundle'.toValue = g.bind factory registry bundle.toValue := by
  have hitems : (bundle'.get name).items? = some [.map entries] := by
    rcases hlist with hlist | hlist <;> rw [hlist] <;> rfl
  exact bind_eq_of_resolve factory g hown hother
    (resolve_of_singleton hown hne hrecord hitems hresult)

/-- A name that is declared twice and stands in the middle of a chain. -/
def flankedGraph : Dot.Graph :=
  ⟨.digraph, "", false,
    [.edge ⟨["A", "B", "C"], []⟩, .node ⟨"B", [⟨"label", "X"⟩]⟩, .node ⟨"B", []⟩]⟩

/-- Several records for each of its neighbours. -/
def flankedBundle (v : Value) : Record :=
  let record (n : Int) : Value := .map [(.text "id", .int n)]
  ⟨[(.text "A", .list [record 1, record 2]), (.text "B", v),
    (.text "C", .list [record 3, record 4])]⟩

def tagB : RecordFunction :=
  ⟨"tag", fun
    | .map entries => .ok (.map (entries ++ [(.text "tag", .bool true)]))
    | _ => .ok .null⟩

/-- The list of a record, and the tuple, take its place on both sides of several records. -/
theorem bind_flankedBundle :
    let record : Value := .map [(.text "id", .int 0)]
    let registry : Registry := ⟨[("B", .ofNode "B" tagB)]⟩
    let boundTo (v : Value) := flankedGraph.bind .descriptors registry (flankedBundle v).toValue
    registry.ReadsOwn ∧
    (∀ v other, other ≠ "B" →
      (flankedBundle v).get other = (flankedBundle record).get other) ∧
    (∀ f v, registry.find? "B" = some (.ofNode "B" f) → f.apply record = .ok v →
      v.keepsInList = true) ∧
    boundTo (.list [record]) = boundTo record ∧ boundTo (.tuple [record]) = boundTo record ∧
    (boundTo record).calls = [⟨"tag", record⟩] ∧ (boundTo record).output.failure? = none ∧
    (boundTo record).output.statements.length = 10 := by
  intro record registry boundTo
  have hown : registry.ReadsOwn := by
    intro entry hentry
    rw [List.mem_singleton.1 hentry]
    exact ⟨_, rfl⟩
  have hother : ∀ v other, other ≠ "B" →
      (flankedBundle v).get other = (flankedBundle record).get other := by
    intro v other hne
    have hB : Value.isText other (.text "B") = false := by simpa [Value.isText] using hne.symm
    simp only [flankedBundle, Record.get, Record.get?, List.find?_cons, hB]
  have hresult : ∀ f v, registry.find? "B" = some (.ofNode "B" f) → f.apply record = .ok v →
      v.keepsInList = true := by
    rintro f v hfind happly
    obtain rfl : tagB = f := by simpa [registry, Registry.find?] using hfind
    obtain rfl := Except.ok.inj happly
    rfl
  have hbound (v : Value) (hlist : v = .list [record] ∨ v = .tuple [record]) :
      boundTo v = boundTo record :=
    bind_of_single_record .descriptors flankedGraph hown (hother v) (by simp) rfl hlist hresult
  have hfailure : (boundTo record).output.failure? = none :=
    Option.isNone_iff_eq_none.1 (by decide +kernel)
  exact ⟨hown, hother, hresult, hbound _ (Or.inl rfl), hbound _ (Or.inr rfl), rfl, hfailure,
    by decide +kernel⟩

end Dot.Graph

end DotBinding

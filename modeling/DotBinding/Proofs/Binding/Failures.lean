import DotBinding.Proofs.Binding.Names
import DotBinding.Proofs.Binding.Statements
import DotBinding.Proofs.Value.Writable

/-!
# Why a binding fails

A binding whose transforms all return and whose factory takes every record can fail in two ways
only, as long as all labels can be written. A name that resolves to something else than records
comes first, whatever the edges are: the error is about the first one mentioned. If there is none,
the first two neighbours of a chain with several records on both sides are in error, as long as
every name of the chain in front of them has records. Both conditions are stated on the values
themselves.

A label is written as text, which the longest integers do not have. Such a label under a name ends
the binding at that name.
-/

namespace DotBinding

open Dot (EdgeDeclaration)

namespace Value

def record? : Value → Option Record
  | map entries => some ⟨entries⟩
  | _ => none

/-- Whether a value stands for records: it is null, a record, or a list of records and nulls. -/
def standsForRecords : Value → Bool
  | null | map _ => true
  | list items | tuple items => items.all fun v => v.isNull || v.record?.isSome
  | _ => false

/-- The records that a value stands for. Nulls and the empty record are none. -/
def records (v : Value) : List Record :=
  if v.standsForRecords then
    match v with
    | map entries => if entries.isEmpty then [] else [⟨entries⟩]
    | list items | tuple items => items.filterMap record?
    | _ => []
  else []

end Value

/-! ## Records of a value -/

namespace Resolution

lemma recordsOf_eq_ok {name : String} {items : List Value}
    (h : (items.all fun v => v.isNull || v.record?.isSome) = true) :
    recordsOf name items = .ok (items.filterMap Value.record?) := by
  induction items with
  | nil => rfl
  | cons v rest ih =>
    rw [List.all_cons, Bool.and_eq_true] at h
    cases v with
    | null => exact ih h.2
    | map entries =>
      rw [recordsOf, ih h.2]
      rfl
    | _ => simp [Value.isNull, Value.record?] at h

lemma recordsOf_eq_error (name : String) {items : List Value}
    (h : (items.all fun v => v.isNull || v.record?.isSome) = false) :
    ∃ e, recordsOf name items = .error e ∧ e.name = name := by
  induction items with
  | nil => simp at h
  | cons v rest ih =>
    cases v with
    | null => exact ih (by simpa [Value.isNull] using h)
    | map entries =>
      obtain ⟨e, he, hname⟩ := ih (by simpa [Value.record?] using h)
      refine ⟨e, ?_, hname⟩
      rw [recordsOf, he]
      rfl
    | _ => exact ⟨_, rfl, rfl⟩

end Resolution

namespace Binding

lemma recordsOf_items {v : Value} {items : List Value} (h : v.items? = some items)
    (name : String) :
    recordsOf name v = (Resolution.recordsOf name items).mapError .shape := by
  have hlist : recordsOf name (.list items) =
      (Resolution.recordsOf name items).mapError .shape := by
    simp only [recordsOf, Resolution.ofValue]
    cases Resolution.recordsOf name items with
    | error e => rfl
    | ok found => cases found <;> rfl
  cases v with
  | list items' | tuple items' =>
    obtain rfl := Option.some.inj h
    exact hlist
  | _ => cases h

lemma recordsOf_eq_ok {name : String} {v : Value} (h : v.standsForRecords = true) :
    recordsOf name v = .ok v.records := by
  unfold Value.records
  rw [if_pos h]
  cases v with
  | null => rfl
  | map entries => cases entries <;> rfl
  | list items | tuple items => rw [recordsOf_items rfl, Resolution.recordsOf_eq_ok h]; rfl
  | _ => cases h

lemma recordsOf_eq_error (name : String) {v : Value} (h : v.standsForRecords = false) :
    ∃ e, recordsOf name v = .error (.shape e) ∧ e.name = name := by
  cases v with
  | null | map entries => cases h
  | list items | tuple items =>
    obtain ⟨e, he, hname⟩ := Resolution.recordsOf_eq_error name h
    exact ⟨e, by rw [recordsOf_items rfl, he]; rfl, hname⟩
  | _ => exact ⟨_, rfl, rfl⟩

variable {refusal? : Record → Option PropertyError} {registry : Registry} {values : Value}

/-- What a name resolves to: the result of its transform, or else what the bundle holds. It counts
as null where there is no result. -/
def valueAt (registry : Registry) (values : Value) (name : String) : Value :=
  (valueOf registry values name).result.toOption.getD .null

def recordCount (registry : Registry) (values : Value) (name : String) : Nat :=
  (valueAt registry values name).records.length

lemma recordsAt_eq_records (name : String) :
    recordsAt registry values name = (valueAt registry values name).records := by
  unfold recordsAt resolved valueAt
  cases (valueOf registry values name).result with
  | error e => rfl
  | ok v =>
    change (recordsOf name v).toOption.getD [] = v.records
    cases h : v.standsForRecords with
    | true =>
      rw [recordsOf_eq_ok h]
      rfl
    | false =>
      obtain ⟨e, he, -⟩ := recordsOf_eq_error name h
      unfold Value.records
      rw [he, if_neg (by simp [h])]
      rfl

/-! ## Names that stand for something else -/

/-- Whether every name has a value, that is, its transform returns and the bundle can be asked. -/
def AllReturn (registry : Registry) (values : Value) : Prop :=
  ∀ name, (valueOf registry values name).result = .ok (valueAt registry values name)

lemma allReturn_of_transforms {bundle : Record}
    (h : ∀ name t, registry.find? name = some t → ∃ v, (t.run bundle.toValue).result = .ok v) :
    AllReturn registry bundle.toValue := by
  intro name
  unfold valueAt valueOf
  cases ht : registry.find? name with
  | none => rfl
  | some t =>
    obtain ⟨v, hv⟩ := h name t ht
    simp [Traced.mapError, hv, Except.mapError, Except.toOption]

/-- Whether the labels that the records of a name bring can all be written. -/
def labelsWritable (registry : Registry) (values : Value) (name : String) : Bool :=
  (valueAt registry values name).records.all fun r => (r.get "label").isWritable

variable {σ : Type} {factory : Factory σ}

/-- With no record refused and all labels written, only the shape of its value can keep a name from
being resolved. -/
lemma resolve_result (hfactory : ∀ r, factory.refusal? r = none)
    (hreturn : AllReturn registry values) {name : String}
    (hlabels : labelsWritable registry values name = true) :
    (resolve factory.rejection? registry values name).result =
      recordsOf name (valueAt registry values name) := by
  unfold resolve Traced.check
  rw [hreturn name]
  change (recordsOf name (valueAt registry values name)).bind (writable factory.rejection?) = _
  cases hfit : (valueAt registry values name).standsForRecords with
  | false =>
    obtain ⟨e, he, -⟩ := recordsOf_eq_error name hfit
    rw [he]
    rfl
  | true =>
    rw [recordsOf_eq_ok hfit]
    refine writable_eq_ok_iff.2 ⟨rfl, fun r hr => ?_⟩
    exact Factory.rejection?_eq_none_iff.2 ⟨List.all_eq_true.1 hlabels r hr, hfactory r⟩

/-- The first name that does not stand for records. -/
def misfit? (registry : Registry) (values : Value) (names : List String) : Option String :=
  names.find? fun name => !(valueAt registry values name).standsForRecords

/-- A look-up stops at the first name that does not stand for records, and nowhere else. -/
lemma stop?_lookUp (hfactory : ∀ r, factory.refusal? r = none)
    (hreturn : AllReturn registry values) {names : List String}
    (hlabels : ∀ name ∈ names, labelsWritable registry values name = true) :
    (misfit? registry values names = none ∧
      (lookUp factory.rejection? registry values names).stop? = none) ∨
    ∃ name e, misfit? registry values names = some name ∧
      (lookUp factory.rejection? registry values names).stop? = some (name, .shape e) ∧
      e.name = name := by
  induction names with
  | nil => exact Or.inl ⟨rfl, rfl⟩
  | cons n rest ih =>
    obtain ⟨hlabel, hrest⟩ := List.forall_mem_cons.1 hlabels
    unfold misfit? lookUp
    rw [List.find?_cons]
    have hn := resolve_result hfactory hreturn hlabel
    -- the look-up and the search go on at the same names, so they also stop at the same one
    cases hfit : (valueAt registry values n).standsForRecords with
    | true =>
      rw [recordsOf_eq_ok hfit] at hn
      simp only [hn, Bool.not_true]
      exact ih hrest
    | false =>
      obtain ⟨e, he, hname⟩ := recordsOf_eq_error n hfit
      rw [he] at hn
      simp only [hn, Bool.not_false]
      exact Or.inr ⟨n, e, rfl, rfl, hname⟩

/-! ## Several records on both sides -/

/-- The error of the first two neighbours of a chain that both have several records, if every name
in front of the latter has some. -/
def manyToMany? (count : String → Nat) (e : EdgeDeclaration) : Option CardinalityError :=
  (links (e.chain.takeWhile fun name => count name ≠ 0)).findSome? fun link =>
    if 1 < count link.1 ∧ 1 < count link.2 then
      some ⟨link.1, link.2, e.chain, count link.1, count link.2⟩
    else none

lemma links_map {α β : Type} (f : α → β) (items : List α) :
    links (items.map f) = (links items).map (Prod.map f f) := by
  rw [links, links, ← List.map_tail, List.zip_map]

lemma length_records_placeIn (site : Outline.Site) :
    (placeIn registry values site).records.length = recordCount registry values site.name := by
  rw [placeIn, List.length_map, recordsAt_eq_records, recordCount]

end Binding

namespace Outline

open Binding

variable {registry : Registry} {values : Value} {o : Outline}

lemma edgeConflict?_eq (e : EdgeDeclaration) :
    o.edgeConflict? registry values e = manyToMany? (recordCount registry values) e := by
  have hcount : ∀ name, (placeIn registry values (o.site name)).records.length =
      recordCount registry values name := by
    intro name
    rw [length_records_placeIn, name_site]
  have hpart : resolvedPart (o.placesOf registry values e) =
      (e.chain.takeWhile fun name => recordCount registry values name ≠ 0).map
        fun name => placeIn registry values (o.site name) := by
    rw [resolvedPart, placesOf, List.takeWhile_map]
    congr 2
    funext name
    rw [Function.comp_apply, Place.isEmpty, ← hcount, Bool.eq_iff_iff]
    simp
  rw [edgeConflict?, hpart, links_map, List.findSome?_map, manyToMany?]
  congr 1
  funext link
  simp only [Function.comp_apply, conflict?, Prod.map_fst, Prod.map_snd, hcount]
  simp only [placeIn, name_site]

end Outline

namespace Dot.Graph

open Binding

variable {σ : Type}

/-- The first mentioned name that stands for something else than records. -/
def misfit? (registry : Registry) (bundle : Record) (g : Dot.Graph) : Option String :=
  Binding.misfit? registry bundle.toValue g.mentionedNames

/-- The error of the first edge with several records on both sides of a link. -/
def manyToMany? (registry : Registry) (bundle : Record) (g : Dot.Graph) :
    Option CardinalityError :=
  g.edgeDeclarations.findSome? (Binding.manyToMany? (recordCount registry bundle.toValue))

/-- Whether all labels that the mentioned names bring can be written. -/
def LabelsWritable (registry : Registry) (bundle : Record) (g : Dot.Graph) : Prop :=
  ∀ name ∈ g.mentionedNames, labelsWritable registry bundle.toValue name = true

variable {factory : Factory σ} {registry : Registry} {bundle : Record} {g : Dot.Graph}

/-- A binding fails where its look-up stops, and else at the first edge in conflict. -/
lemma failure?_bind_eq (registry : Registry) (bundle : Record) (g : Dot.Graph) :
    (g.bind factory registry bundle.toValue).output.failure? =
      ((lookUp factory.rejection? registry bundle.toValue g.mentionedNames).stop?.map Prod.snd).or
        ((g.manyToMany? registry bundle).map .cardinality) := by
  have hempty : bundle.toValue.orEmpty = bundle.toValue := Value.orEmpty_map _
  have hconflict : (Outline.ofGraph g).edgeConflict? registry bundle.toValue =
      Binding.manyToMany? (recordCount registry bundle.toValue) :=
    funext Outline.edgeConflict?_eq
  rw [bind, Outline.failure?_bind, hempty, names_ofGraph, hconflict]
  rfl

/-- The two ways to fail, in their order of precedence. -/
lemma failure?_bind_of_returns (hfactory : ∀ r, factory.refusal? r = none)
    (hreturn : AllReturn registry bundle.toValue) (hlabels : g.LabelsWritable registry bundle) :
    (g.misfit? registry bundle = none ∧
      (g.bind factory registry bundle.toValue).output.failure? =
        (g.manyToMany? registry bundle).map .cardinality) ∨
    ∃ name e, g.misfit? registry bundle = some name ∧
      (g.bind factory registry bundle.toValue).output.failure? = some (.shape e) ∧
      e.name = name := by
  rw [failure?_bind_eq]
  rcases stop?_lookUp hfactory hreturn hlabels with
    ⟨hfit, hstop⟩ | ⟨name, e, hmisfit, hstop, hname⟩
  · left
    rw [hstop]
    exact ⟨hfit, rfl⟩
  · right
    rw [hstop]
    exact ⟨name, e, hmisfit, rfl, hname⟩

end Dot.Graph

end DotBinding

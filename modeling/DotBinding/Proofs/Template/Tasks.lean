import DotBinding.Proofs.Binding.Failures
import DotBinding.Proofs.Binding.Formats
import DotBinding.Proofs.Template.Concatenation
import DotBinding.Proofs.Template.Wrapping
import DotBinding.Proofs.Value.Dumped

/-!
# Binding one text to data

The program and the service bind a template of one text, without transforms, to data that was read
as JSON. What can go wrong there is little: the text may not be read, a value may not stand for
records, and both sides of a relationship may be several records. What is made of such data can
always be written, as no number in it is too long.
-/

namespace DotBinding

/-- A text with what stands around it, what it is bound to, and the format of the statements. -/
structure Task where
  template : String
  kind : TemplateKind
  format : Format
  values : Record

/-- What comes of a task: its template is put together and then bound. -/
def Task.run (t : Task) : Except Error (List Statement × List Diagnostic) :=
  (Template.build t.kind [.value (.text t.template)]).bind fun template =>
    (template.bind t.format.factory t.values.toValue).output.result.mapError .bind

/-! ## Records in data -/

namespace Value

lemma isData_of_record? {v : Value} (h : v.isData = true) {r : Record}
    (hr : v.record? = some r) : r.toValue.isData = true := by
  cases v with
  | map entries =>
    obtain rfl := Option.some.inj hr
    exact h
  | _ => cases hr

lemma isData_of_mem_records {v : Value} (h : v.isData = true) {r : Record}
    (hr : r ∈ v.records) : r.toValue.isData = true := by
  unfold records at hr
  split at hr
  · split at hr
    · split at hr
      · cases hr
      · obtain rfl := List.mem_singleton.mp hr
        exact h
    · obtain ⟨item, hitem, hrecord⟩ := List.mem_filterMap.mp hr
      exact isData_of_record? (isData_list_iff.mp h item hitem) hrecord
    · obtain ⟨item, hitem, hrecord⟩ := List.mem_filterMap.mp hr
      exact isData_of_record? (isData_tuple_iff.mp h item hitem) hrecord
    · cases hr
  · cases hr

end Value

namespace Dot.Graph

open Binding

variable {values : Record}

lemma isData_of_mem_recordsAt (hdata : values.toValue.isData = true) {name : String} {r : Record}
    (hr : r ∈ recordsAt .empty values.toValue.orEmpty name) : r.toValue.isData = true := by
  rw [show values.toValue.orEmpty = values.toValue from Value.orEmpty_map _,
    recordsAt_eq_records] at hr
  exact Value.isData_of_mem_records (Value.isData_get hdata name) hr

/-- Without transforms only the shape of a value and the number of records can be wrong. -/
lemma failure_cases (hdata : values.toValue.isData = true) (format : Format)
    (g : Dot.Graph) {f : BindFailure}
    (h : (g.bind format.factory .empty values.toValue).output.failure? = some f) :
    (∃ e, f = .shape e) ∨ ∃ e, f = .cardinality e := by
  have hlabels : g.LabelsWritable .empty values := by
    intro name _
    rw [labelsWritable, List.all_eq_true]
    intro r hr
    have hrecord := Value.isData_of_mem_records (Value.isData_get hdata name) hr
    exact (Value.isData_iff.mp (Value.isData_get hrecord "label")).2
  have hreturn : AllReturn .empty values.toValue :=
    allReturn_of_transforms fun name t ht => by cases ht
  rw [bind_eq_map_render format fun name _ r hr =>
    format.refusal?_of_isData (isData_of_mem_recordsAt hdata hr)] at h
  have hfactory : ∀ r, Factory.descriptors.refusal? r = none := fun _ => rfl
  rcases failure?_bind_of_returns hfactory hreturn hlabels with
    ⟨-, hfail⟩ | ⟨name, e, -, hfail, -⟩
  · obtain ⟨c, -, rfl⟩ := Option.map_eq_some_iff.mp (hfail.symm.trans h)
    exact Or.inr ⟨c, rfl⟩
  · exact Or.inl ⟨e, (Option.some.inj (hfail.symm.trans h)).symm⟩

end Dot.Graph

/-! ## What is made of data -/

namespace Outline

lemma isWritable_props_of_mem_sites {o : Outline} {s : Site} (h : s ∈ o.sites) :
    s.props.toValue.isWritable = true := by
  have htexts (pairs : List (String × String)) (r : Record) (hr : r.toValue.isWritable = true) :
      (pairs.foldl (fun r p => r.set p.1 (.text p.2)) r).toValue.isWritable = true := by
    induction pairs generalizing r with
    | nil => exact hr
    | cons p rest ih =>
      refine ih _ (Value.entriesAreWritable_iff.mpr ?_)
      exact Value.forall_setEntry rfl rfl (Value.entriesAreWritable_iff.mp hr)
  rcases List.mem_append.mp h with hdeclared | himplied
  · obtain ⟨d, -, rfl⟩ := List.mem_map.mp hdeclared
    exact htexts _ .empty rfl
  · obtain ⟨name, -, rfl⟩ := List.mem_map.mp himplied
    rfl

lemma Site.isWritable_fill {s : Site} (hs : s.props.toValue.isWritable = true) {r : Record}
    (hr : r.toValue.isWritable = true) : (s.fill r).toValue.isWritable = true := by
  unfold fill
  split
  · exact hr
  · exact Value.entriesAreWritable_iff.mpr (Value.forall_overlay
      (Value.entriesAreWritable_iff.mp hs) (Value.entriesAreWritable_iff.mp hr))

end Outline

namespace Cypher

lemma isWritable_of_storable {v w : Value} (h : v.isWritable = true) (hw : storable v = some w) :
    w.isWritable = true := by
  cases v with
  | null => cases hw
  | list items | tuple items | map entries =>
    obtain rfl := Option.some.inj hw
    rfl
  | _ =>
    obtain rfl := Option.some.inj hw
    exact h

lemma isWritable_clean {r : Record} (h : r.toValue.isWritable = true) :
    (clean r).toValue.isWritable = true := by
  refine Value.entriesAreWritable_iff.mpr fun e he => ?_
  obtain ⟨e', he', hstored⟩ := List.mem_filterMap.mp he
  obtain ⟨w, hw, rfl⟩ := Option.map_eq_some_iff.mp hstored
  obtain ⟨hkey, hvalue⟩ := Value.entriesAreWritable_iff.mp h e' he'
  exact ⟨hkey, isWritable_of_storable hvalue hw⟩

end Cypher

namespace Format

lemma isWritable_node (format : Format) (label : Label) (idName : String) {props : Record}
    (h : props.toValue.isWritable = true) :
    (format.factory.node label idName props).IsWritable := by
  cases format with
  | descriptors => exact h
  | cypher =>
    have hstored : (Cypher.clean (Cypher.stored props)).toValue.isWritable = true :=
      Cypher.isWritable_clean (Value.entriesAreWritable_iff.mpr fun e he =>
        Value.entriesAreWritable_iff.mp h e (List.mem_of_mem_filter he))
    change (Cypher.nodeQuery label idName props).parameters.toValue.isWritable = true
    have hid := Value.isWritable_get h idName
    unfold Cypher.nodeQuery
    dsimp only
    split
    · exact Value.entriesAreWritable_iff.mpr (List.forall_mem_singleton.mpr ⟨rfl, hstored⟩)
    · exact Value.entriesAreWritable_iff.mpr (List.forall_mem_cons.mpr
        ⟨⟨rfl, hid⟩, List.forall_mem_singleton.mpr ⟨rfl, hstored⟩⟩)

lemma isWritable_relationship (format : Format) {left right : Endpoint} (type : String)
    (direction : Direction) (hleft : left.id.isWritable = true)
    (hright : right.id.isWritable = true) :
    (format.factory.relationship left right type direction).IsWritable := by
  cases format with
  | descriptors => exact ⟨hleft, hright⟩
  | cypher =>
    exact Value.entriesAreWritable_iff.mpr (List.forall_mem_cons.mpr
      ⟨⟨rfl, hleft⟩, List.forall_mem_singleton.mpr ⟨rfl, hright⟩⟩)

end Format

namespace Dot.Graph

open Binding

/-- Every statement made of data can be written. -/
lemma isWritable_of_bind {values : Record} (hdata : values.toValue.isData = true)
    (format : Format) (g : Dot.Graph)
    (h : (g.bind format.factory .empty values.toValue).output.failure? = none) :
    ∀ s ∈ (g.bind format.factory .empty values.toValue).output.statements, s.IsWritable := by
  have hplace {site : Outline.Site} (hsite : site ∈ (Outline.ofGraph g).sites) :
      ∀ r ∈ (placeIn .empty values.toValue.orEmpty site).records,
        r.toValue.isWritable = true := by
    intro r hr
    obtain ⟨r', hr', rfl⟩ := List.mem_map.mp hr
    exact Outline.Site.isWritable_fill (Outline.isWritable_props_of_mem_sites hsite)
      (Value.isData_iff.mp (isData_of_mem_recordsAt hdata hr')).2
  rw [bind, Outline.statements_bind h]
  intro s hs
  rcases List.mem_append.mp hs with hnode | hrelationship
  · obtain ⟨site, hsite, hs⟩ := List.mem_flatMap.mp hnode
    obtain ⟨r, hr, rfl⟩ := List.mem_map.mp hs
    exact format.isWritable_node _ _ (hplace hsite r hr)
  · obtain ⟨e, he, hs⟩ := List.mem_flatMap.mp hrelationship
    obtain ⟨link, hlink, hs⟩ := List.mem_flatMap.mp hs
    obtain ⟨⟨l, r⟩, hpair, rfl⟩ := List.mem_map.mp hs
    obtain ⟨hl, hr⟩ := List.pair_mem_product.mp hpair
    have hend {p : Place} (hp : p ∈ resolvedPart ((Outline.ofGraph g).placesOf .empty
        values.toValue.orEmpty e)) {r : Record} (hr : r ∈ p.records) :
        (r.get p.site.idName).isWritable = true := by
      obtain ⟨name, hname, rfl⟩ := List.mem_map.mp ((resolvedPart_sublist _).subset hp)
      exact Value.isWritable_get (hplace (Outline.site_mem_sites _ he hname) r hr) _
    obtain ⟨hleft, hright⟩ := mem_of_mem_links hlink
    exact format.isWritable_relationship _ _ (hend hleft hl) (hend hright hr)

end Dot.Graph

namespace Bound

variable {σ : Type}

lemma output_join (parts : List (Bound σ)) : (join parts).output = .join (parts.map output) := by
  induction parts with
  | nil => rfl
  | cons first rest ih =>
    change (first.andThen (join rest)).output = _
    rw [output_andThen, ih, List.map_cons, Output.join_cons]

end Bound

namespace Task

/-- A task whose text is read comes to what the graphs in it come to together. -/
lemma run_of_parse {t : Task} {graphs : List Dot.Graph}
    (hparse : Dot.parse (t.kind.wrap t.template) = .ok graphs) :
    t.run = (Output.join (graphs.map fun g =>
      (g.bind t.format.factory .empty t.values.toValue).output)).result.mapError .bind := by
  rw [run, Template.build_text, hparse]
  change (Template.bind t.format.factory t.values.toValue
    ⟨t.kind.wrap t.template, graphs, .empty⟩).output.result.mapError Error.bind = _
  rw [Template.bind, Bound.output_join, List.map_map]
  rfl

lemma run_of_parse_error {t : Task} {p : Dot.ParseError}
    (hparse : Dot.parse (t.kind.wrap t.template) = .error p) : t.run = .error (.parse p) := by
  rw [run, Template.build_text, hparse]
  rfl

/-- The three ways in which a task can fail. -/
lemma run_error_cases {t : Task} (hdata : t.values.toValue.isData = true) {e : Error}
    (h : t.run = .error e) :
    (∃ p, Dot.parse (t.kind.wrap t.template) = .error p ∧ e = .parse p) ∨
      (∃ s, e = .bind (.shape s)) ∨ ∃ c, e = .bind (.cardinality c) := by
  cases hparse : Dot.parse (t.kind.wrap t.template) with
  | error p =>
    rw [run_of_parse_error hparse] at h
    exact Or.inl ⟨p, rfl, (Except.error.inj h).symm⟩
  | ok graphs =>
    rw [run_of_parse hparse] at h
    cases hresult : (Output.join (graphs.map fun g =>
        (g.bind t.format.factory .empty t.values.toValue).output)).result with
    | ok r =>
      rw [hresult] at h
      cases h
    | error f =>
      rw [hresult] at h
      obtain rfl := Except.error.inj h
      rw [Output.result_eq_error_iff, Output.failure?_join] at hresult
      obtain ⟨out, hout, hfail⟩ := List.exists_of_findSome?_eq_some hresult
      obtain ⟨g, -, rfl⟩ := List.mem_map.mp hout
      right
      rcases g.failure_cases hdata t.format hfail with ⟨s, rfl⟩ | ⟨c, rfl⟩
      · exact Or.inl ⟨s, rfl⟩
      · exact Or.inr ⟨c, rfl⟩

/-- Whatever comes of data can be written. -/
lemma isWritable_of_run {t : Task} (hdata : t.values.toValue.isData = true)
    {statements : List Statement} {gaps : List Diagnostic} (h : t.run = .ok (statements, gaps)) :
    ∀ s ∈ statements, s.IsWritable := by
  cases hparse : Dot.parse (t.kind.wrap t.template) with
  | error p =>
    rw [run_of_parse_error hparse] at h
    cases h
  | ok graphs =>
    rw [run_of_parse hparse] at h
    cases hresult : (Output.join (graphs.map fun g =>
        (g.bind t.format.factory .empty t.values.toValue).output)).result with
    | error f =>
      rw [hresult] at h
      cases h
    | ok r =>
      rw [hresult] at h
      obtain rfl := Except.ok.inj h
      obtain ⟨hfail, rfl, -⟩ := Output.result_eq_ok_iff.mp hresult
      rw [Output.failure?_join, List.findSome?_eq_none_iff] at hfail
      rw [Output.statements_join hfail]
      intro s hs
      obtain ⟨out, hout, hs⟩ := List.mem_flatMap.mp hs
      have hnone := hfail out hout
      obtain ⟨g, -, rfl⟩ := List.mem_map.mp hout
      exact g.isWritable_of_bind hdata t.format hnone s hs

end Task

end DotBinding

import DotBinding.Proofs.Json.Encoding
import DotBinding.Proofs.Template.Tasks

/-!
# What a body asks for

A body asks for a task if it is a map whose members make one: a template with something in it, a
kind and a format by their names, and a map of values. All but the template have a default. Such a
body is answered with what comes of the task, and a value that asks for none is a bad request.
-/

namespace DotBinding

lemma TemplateKind.name_injective : Function.Injective TemplateKind.name := by
  intro kind kind' h
  cases kind <;> cases kind' <;> first | rfl | exact absurd h (by decide)

lemma Format.name_injective : Function.Injective Format.name := by
  intro format format' h
  cases format <;> cases format' <;> first | rfl | exact absurd h (by decide)

namespace Service

/-- Whether the entries of a body make a task. -/
structure Asks (r : Record) (t : Task) : Prop where
  template : r.get? "template" = some (.text t.template)
  filled : ∃ c ∈ t.template.toList, Text.isBlank c = false
  kind : r.get? "kind" = some (.text t.kind.name) ∨ r.get? "kind" = none ∧ t.kind = .dot
  format : r.get? "format" = some (.text t.format.name) ∨
    r.get? "format" = none ∧ t.format = .descriptors
  values : r.get? "values" = some t.values.toValue ∨ r.get? "values" = none ∧ t.values = .empty

/-- The request that stands for a task. -/
def BindRequest.ofTask (t : Task) : BindRequest :=
  ⟨t.template, t.kind.name, t.format.name, t.values⟩

lemma BindRequest.run_ofTask (t : Task) : (ofTask t).run = t.run :=
  run_eq t.kind t.format t.template t.values

lemma templateText?_eq_some_iff {v : Value} {s : String} :
    templateText? v = some s ↔ v = .text s ∧ ∃ c ∈ s.toList, Text.isBlank c = false := by
  cases v with
  | text s' =>
    rw [templateText?]
    split
    · next hblank =>
      rw [List.all_eq_true] at hblank
      simp only [reduceCtorEq, Value.text.injEq, false_iff, not_and, not_exists]
      rintro rfl c hc hother
      rw [hblank c hc] at hother
      cases hother
    · next hfilled =>
      simp only [Option.some.injEq, Value.text.injEq, iff_self_and]
      rintro rfl
      simpa using hfilled
  | _ => simp [templateText?]

lemma getD_eq_iff {o : Option Value} {default v : Value} :
    o.getD default = v ↔ o = some v ∨ o = none ∧ default = v := by
  cases o <;> simp

namespace BindRequest

lemma ofRecord_eq_ok_iff {r : Record} {request : BindRequest} :
    ofRecord r = .ok request ↔
      templateText? (r.get "template") = some request.template ∧
      (r.get? "kind").getD (.text TemplateKind.dot.name) = .text request.kind ∧
      (r.get? "format").getD (.text Format.descriptors.name) = .text request.format ∧
      (r.get? "values").getD (.map []) = request.values.toValue := by
  obtain ⟨template, kind, format, ⟨held⟩⟩ := request
  unfold ofRecord
  generalize templateText? (r.get "template") = given
  generalize (r.get? "kind").getD _ = givenKind
  generalize (r.get? "format").getD _ = givenFormat
  generalize (r.get? "values").getD _ = givenValues
  cases given with
  | none => simp
  | some s =>
    cases givenKind with
    | text k =>
      cases givenFormat with
      | text f =>
        cases givenValues with
        | map entries =>
          simp [Record.toValue, pure, Except.pure]
        | _ => simp [Record.toValue]
      | _ => simp
    | _ => simp

lemma ofRecord_of_asks {r : Record} {t : Task} (h : Asks r t) : ofRecord r = .ok (ofTask t) := by
  have htemplate : templateText? (r.get "template") = some t.template := by
    rw [Record.get, h.template]
    exact templateText?_eq_some_iff.mpr ⟨rfl, h.filled⟩
  refine ofRecord_eq_ok_iff.mpr ⟨htemplate, ?_, ?_, ?_⟩
  · rcases h.kind with hkind | ⟨hkind, hdefault⟩
    · rw [hkind, Option.getD_some, ofTask]
    · rw [hkind, Option.getD_none, ofTask, hdefault]
  · rcases h.format with hformat | ⟨hformat, hdefault⟩
    · rw [hformat, Option.getD_some, ofTask]
    · rw [hformat, Option.getD_none, ofTask, hdefault]
  · rcases h.values with hvalues | ⟨hvalues, hdefault⟩
    · rw [hvalues, Option.getD_some, ofTask]
    · rw [hvalues, Option.getD_none, ofTask, hdefault]
      rfl

/-- The names of a request may be unknown. Otherwise it stands for a task. -/
lemma asks_or_unknown {r : Record} {request : BindRequest} (h : ofRecord r = .ok request) :
    (∃ t, Asks r t ∧ request = ofTask t) ∨
      ∃ e, request.run = .error e ∧ errorType e = "BadRequest" := by
  obtain ⟨htemplate, hkind, hformat, hvalues⟩ := ofRecord_eq_ok_iff.mp h
  cases hf : Format.ofName? request.format with
  | none =>
    refine Or.inr ⟨.unknownFormat request.format, ?_, rfl⟩
    rw [run, Format.named, hf]
    rfl
  | some format =>
    have hformatName : format.name = request.format := by
      simpa using List.find?_some hf
    cases hk : TemplateKind.ofName? request.kind with
    | none =>
      refine Or.inr ⟨.unknownKind request.kind, ?_, rfl⟩
      rw [run, Format.named, hf, TemplateKind.named, hk]
      rfl
    | some kind =>
      have hkindName : kind.name = request.kind := by
        simpa using List.find?_some hk
      obtain ⟨hgiven, hfilled⟩ := templateText?_eq_some_iff.mp htemplate
      refine Or.inl ⟨⟨request.template, kind, format, request.values⟩,
        ⟨?_, hfilled, ?_, ?_, ?_⟩, ?_⟩
      · unfold Record.get at hgiven
        exact (getD_eq_iff.mp hgiven).resolve_right fun hnull => by cases hnull.2
      · rw [← hkindName] at hkind
        refine (getD_eq_iff.mp hkind).imp_right (And.imp_right fun hname => ?_)
        exact (TemplateKind.name_injective (Value.text.inj hname)).symm
      · rw [← hformatName] at hformat
        refine (getD_eq_iff.mp hformat).imp_right (And.imp_right fun hname => ?_)
        exact (Format.name_injective (Value.text.inj hname)).symm
      · refine (getD_eq_iff.mp hvalues).imp_right (And.imp_right fun hempty => ?_)
        rw [Record.toValue, Value.map.injEq] at hempty
        exact congrArg Record.mk hempty.symm
      · rw [ofTask, hkindName, hformatName]

end BindRequest

/-! ## Bodies that are read -/

/-- The answer to what comes of a task. -/
def answerTo : Except Error (List Statement × List Diagnostic) → Response
  | .error e => .ofError e.message (errorType e)
  | .ok (statements, gaps) => answer statements gaps

lemma handleBody_of_asks {entries : List (Value × Value)} {t : Task} (h : Asks ⟨entries⟩ t) :
    handleBody (.map entries) = answerTo t.run := by
  simp only [handleBody, BindRequest.ofRecord_of_asks h, BindRequest.run_ofTask]
  cases t.run <;> rfl

lemma handleBody_of_not_asks {v : Value} (h : ∀ entries t, v = .map entries → ¬Asks ⟨entries⟩ t) :
    ∃ message, handleBody v = .badRequest message := by
  cases v with
  | map entries =>
    rw [handleBody]
    cases hrequest : BindRequest.ofRecord ⟨entries⟩ with
    | error message => exact ⟨message, rfl⟩
    | ok request =>
      rcases BindRequest.asks_or_unknown hrequest with ⟨t, ht, -⟩ | ⟨e, he, htype⟩
      · exact absurd ht (h entries t rfl)
      · simp only [he, htype]
        exact ⟨e.message, rfl⟩
  | _ => exact ⟨_, rfl⟩

lemma isData_of_asks {r : Record} (hr : r.toValue.isData = true) {t : Task}
    (h : Asks r t) : t.values.toValue.isData = true := by
  rcases h.values with hvalues | ⟨-, hempty⟩
  · exact Value.isData_of_get? hr hvalues
  · rw [hempty]
    rfl

end Service

end DotBinding

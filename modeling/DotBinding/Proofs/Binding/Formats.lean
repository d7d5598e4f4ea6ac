import DotBinding.Proofs.Binding.Factories
import DotBinding.Proofs.Binding.Names
import DotBinding.Proofs.Value.Writable
import DotBinding.Statement

/-!
# Formats of statements

The format of statements is only a rendering. As long as a factory refuses no record that is bound,
its binding is the one that keeps what is to be created, with each statement written out: it makes
the same calls, reports the same gaps, and fails with the same error. Where the keys of the records
are texts, queries refuse only what they would store as a JSON text and cannot write. All else being
data, the queries of a binding are those of its descriptors, one by one.
-/

namespace DotBinding

/-- Whether everything nested in a record can be written. -/
def Record.nestedAreWritable (r : Record) : Bool :=
  r.entries.all fun e => !e.2.isNested || e.2.isWritable

lemma Record.nestedAreWritable_of_isData {r : Record} (h : r.toValue.isData = true)
    (p : Value × Value → Bool) : nestedAreWritable ⟨r.entries.filter p⟩ = true := by
  rw [nestedAreWritable, List.all_eq_true]
  intro e he
  have hdata := (Value.isData_map_iff.mp h e (List.mem_of_mem_filter he)).2
  rw [(Value.isData_iff.mp hdata).2, Bool.or_true]

namespace Cypher

lemma storeError?_of_isTextKeyed {v : Value} (h : v.isTextKeyed = true) :
    storeError? v = if !v.isNested || v.isWritable then none else some .tooLong := by
  rw [storeError?]
  cases v.isNested with
  | false => rfl
  | true => exact Value.findError?_of_isTextKeyed h

/-- With texts as keys, only what is nested can keep a record from being stored. -/
lemma refusal?_of_isTextKeyed {r : Record} (h : ∀ e ∈ r.entries, e.2.isTextKeyed = true) :
    refusal? r = if r.nestedAreWritable then none else some .tooLong := by
  rw [refusal?, Record.nestedAreWritable, ← findSome?_ite]
  exact findSome?_congr fun e he => storeError?_of_isTextKeyed (h e he)

lemma factory_refusal? {r : Record} (h : r.toValue.isTextKeyed = true) :
    factory.refusal? r = if (stored r).nestedAreWritable then none else some (.json .tooLong) := by
  have hkeyed : ∀ e ∈ (stored r).entries, e.2.isTextKeyed = true := fun e he =>
    (Value.mem_of_entriesAreTextKeyed h (List.mem_of_mem_filter he)).2
  change (refusal? (stored r)).map PropertyError.json = _
  rw [refusal?_of_isTextKeyed hkeyed]
  cases (stored r).nestedAreWritable <;> rfl

end Cypher

namespace Format

/-- Neither format refuses a record whose keys are all texts, but for nested values that cannot be
written as they are stored. -/
lemma refusal?_of_isTextKeyed (format : Format) {r : Record} (h : r.toValue.isTextKeyed = true)
    (hnested : format = cypher → (Cypher.stored r).nestedAreWritable = true) :
    format.factory.refusal? r = none := by
  cases format with
  | cypher =>
    change Cypher.factory.refusal? r = none
    rw [Cypher.factory_refusal? h, hnested rfl]
    rfl
  | descriptors =>
    change PropertyError.ofKeys? r = none
    rw [PropertyError.ofKeys?_eq_none_iff]
    intro e he
    exact (Value.mem_of_entriesAreTextKeyed h he).1

/-- Neither format refuses data. -/
lemma refusal?_of_isData (format : Format) {r : Record} (h : r.toValue.isData = true) :
    format.factory.refusal? r = none :=
  format.refusal?_of_isTextKeyed (Value.isData_iff.mp h).1 fun _ =>
    Record.nestedAreWritable_of_isData h _

/-- What is to be created, as a statement of a format. -/
def render : Format → Descriptor → Statement
  | cypher, d => .query (Cypher.factory.write d)
  | descriptors, d => .descriptor d

lemma write_factory (format : Format) : format.factory.write = format.render := by
  funext d
  cases format <;> cases d <;> rfl

end Format

namespace Dot.Graph

open Binding

variable {σ τ : Type}

/-- Graphs whose bindings differ only by a function on statements leave the same gaps in a log. -/
lemma bindInto_map {f : σ → τ} {factory : Factory σ} {factory' : Factory τ} {registry : Registry}
    {values : Value} {graphs : List Dot.Graph}
    (h : ∀ g ∈ graphs, g.bind factory' registry values = (g.bind factory registry values).map f)
    (log : List Diagnostic) :
    bindInto factory' registry values log graphs =
      ((bindInto factory registry values log graphs).1,
        (bindInto factory registry values log graphs).2.map (List.map f)) := by
  induction graphs generalizing log with
  | nil => rfl
  | cons g rest ih =>
    obtain ⟨hg, hrest⟩ := List.forall_mem_cons.1 h
    unfold bindInto
    rw [hg]
    cases hf : (g.bind factory registry values).output.failure? with
    | some e => simp [Bound.map, Output.map, Output.result, hf, Traced.map, Except.map]
    | none =>
      simp only [Bound.map, Output.map, Output.result, hf, ih hrest, Traced.map]
      cases (bindInto factory registry values
          (log ++ (g.bind factory registry values).output.diagnostics) rest).2.result with
      | error e => rfl
      | ok more => simp only [Except.map, List.map_append]

/-- Where no record is refused, a binding is the one that keeps what is to be created, written
out. -/
lemma bind_eq_map_write {factory : Factory σ} {registry : Registry} {values : Value} {g : Dot.Graph}
    (h : ∀ name ∈ g.mentionedNames, ∀ r ∈ recordsAt registry values.orEmpty name,
      factory.refusal? r = none) :
    g.bind factory registry values = (g.bind .descriptors registry values).map factory.write := by
  apply Outline.bind_map (factory.translates_write (Outline.ofGraph g).directed)
  rw [names_ofGraph]
  refine lookUp_congr fun name hname => resolve_congr_refusal fun r hr => ?_
  rw [Factory.rejection?, Factory.rejection?, h name hname r hr]
  rfl

lemma bind_eq_map_render (format : Format) {registry : Registry} {values : Value} {g : Dot.Graph}
    (h : ∀ name ∈ g.mentionedNames, ∀ r ∈ recordsAt registry values.orEmpty name,
      format.factory.refusal? r = none) :
    g.bind format.factory registry values =
      (g.bind .descriptors registry values).map format.render := by
  rw [← Format.write_factory]
  exact bind_eq_map_write h

/-- A binding that returns has refused none of its records. -/
lemma refusal?_eq_none_of_bind {factory : Factory σ} {registry : Registry} {values : Value}
    {g : Dot.Graph} (h : (g.bind factory registry values).output.failure? = none) {name : String}
    (hname : name ∈ g.mentionedNames) {r : Record}
    (hr : r ∈ recordsAt registry values.orEmpty name) : factory.refusal? r = none := by
  have hstop := Outline.stop?_eq_none_of_bind h
  rw [names_ofGraph, stop?_eq_none_iff] at hstop
  obtain ⟨records, hrecords⟩ := hstop name hname
  obtain ⟨hresolved, haccepted⟩ := resolve_eq_ok_iff.mp hrecords
  rw [recordsAt, hresolved] at hr
  exact (Factory.rejection?_eq_none_iff.mp (haccepted r hr)).2

/-- What the format of statements makes of a binding. Its statements are those to be created, each
written out by the factory, and nothing else depends on the factory: neither the error, nor the
calls, nor the gaps, nor what a log holds afterwards. This is so for both formats wherever the keys
of the records are texts and what queries have to store as JSON texts can be written. Where it
cannot, the binding that writes queries fails. -/
theorem bind_eq_map_recorded (registry : Registry) (values : Value) (g : Dot.Graph) :
    (∀ {σ : Type} (factory : Factory σ),
      (∀ name ∈ g.mentionedNames, ∀ r ∈ recordsAt registry values.orEmpty name,
        factory.refusal? r = none) →
      g.bind factory registry values = (g.bind .descriptors registry values).map factory.write ∧
      ∀ log, bindInto factory registry values log [g] =
        ((bindInto .descriptors registry values log [g]).1,
          (bindInto .descriptors registry values log [g]).2.map (List.map factory.write))) ∧
    ((∀ name ∈ g.mentionedNames, ∀ r ∈ recordsAt registry values.orEmpty name,
        r.toValue.isTextKeyed = true) →
      (∀ format : Format,
        (format = .cypher → ∀ name ∈ g.mentionedNames,
          ∀ r ∈ recordsAt registry values.orEmpty name,
            (Cypher.stored r).nestedAreWritable = true) →
        g.bind format.factory registry values =
          (g.bind .descriptors registry values).map format.render) ∧
      ∀ name ∈ g.mentionedNames, ∀ r ∈ recordsAt registry values.orEmpty name,
        (Cypher.stored r).nestedAreWritable = false →
        ∃ e, (g.bind Cypher.factory registry values).output.result = .error e) := by
  refine ⟨?_, fun hkeys => ⟨?_, ?_⟩⟩
  · intro σ factory h
    have hbind := bind_eq_map_write h
    refine ⟨hbind, bindInto_map ?_⟩
    intro g' hg'
    rw [List.mem_singleton.1 hg']
    exact hbind
  · intro format hnested
    apply bind_eq_map_render
    intro name hname r hr
    exact format.refusal?_of_isTextKeyed (hkeys name hname r hr) fun hformat =>
      hnested hformat name hname r hr
  · intro name hname r hr hnested
    simp only [Output.result_eq_error_iff]
    rw [← Option.ne_none_iff_exists']
    intro hreturn
    have hrefusal := refusal?_eq_none_of_bind hreturn hname hr
    rw [Cypher.factory_refusal? (hkeys name hname r hr), hnested] at hrefusal
    cases hrefusal

/-- A node with an id and something nested, and an edge from it to a record without an id. -/
def nestedGraph : Dot.Graph :=
  ⟨.digraph, "", false, [.node ⟨"A", [⟨"label", "X"⟩]⟩, .edge ⟨["A", "B"], [⟨"dir", "back"⟩]⟩]⟩

def nestedValues : Value :=
  .map [(.text "A", .map [(.text "id", .int 1), (.text "tags", .map [(.text "k", .list [])])]),
    (.text "B", .list [.map [(.text "name", .text "b")], .null])]

def nestedCreated : List Descriptor :=
  [.node (.one "X") "id" ⟨[(.text "label", .text "X"), (.text "id", .int 1),
      (.text "tags", .map [(.text "k", .list [])])]⟩,
    .node (.one "B") "id" ⟨[(.text "name", .text "b")]⟩,
    .relationship ⟨.int 1, .one "X", "id"⟩ ⟨.null, .one "B", "id"⟩ "Relationship" .left]

def lengthyValues : Value :=
  .map [(.text "A", .map [(.text "n", .list [.lengthy])])]

/-- Both formats give the three statements, one for one, and the same gap. A log that held something
before has this gap behind it. With too long a number in a list there are no queries. -/
theorem bind_nestedGraph :
    (∀ name ∈ nestedGraph.mentionedNames,
      ∀ r ∈ recordsAt .empty nestedValues.orEmpty name, r.toValue.isTextKeyed = true) ∧
    (∀ format : Format, (nestedGraph.bind format.factory .empty nestedValues).output.result =
      .ok (nestedCreated.map format.render, [.missingId "B" "A -> B" "id"])) ∧
    bindInto Cypher.factory .empty nestedValues [.shortEdge "C -> D"] [nestedGraph] =
      ([.shortEdge "C -> D", .missingId "B" "A -> B" "id"],
        .pure (nestedCreated.map Cypher.factory.write)) ∧
    ∃ e, (nestedGraph.bind Cypher.factory .empty lengthyValues).output.result = .error e := by
  have hkeys : ∀ name ∈ nestedGraph.mentionedNames,
      ∀ r ∈ recordsAt .empty nestedValues.orEmpty name, r.toValue.isTextKeyed = true := by
    decide +kernel
  have hnested : ∀ name ∈ nestedGraph.mentionedNames,
      ∀ r ∈ recordsAt .empty nestedValues.orEmpty name,
        (Cypher.stored r).nestedAreWritable = true := by
    decide +kernel
  have h := bind_eq_map_recorded .empty nestedValues nestedGraph
  refine ⟨hkeys, fun format => ?_, ?_, ?_⟩
  · rw [(h.2 hkeys).1 format fun _ => hnested]
    rfl
  · have hwritable : ∀ name ∈ nestedGraph.mentionedNames,
        ∀ r ∈ recordsAt .empty nestedValues.orEmpty name, Cypher.factory.refusal? r = none :=
      fun name hname r hr => by
        rw [Cypher.factory_refusal? (hkeys name hname r hr), hnested name hname r hr]
        rfl
    rw [(h.1 Cypher.factory hwritable).2]
    rfl
  · have hkeyed : ∀ name ∈ nestedGraph.mentionedNames,
        ∀ r ∈ recordsAt .empty lengthyValues.orEmpty name, r.toValue.isTextKeyed = true := by
      decide +kernel
    exact ((bind_eq_map_recorded .empty lengthyValues nestedGraph).2 hkeyed).2 "A" (by decide)
      ⟨[(.text "n", .list [.lengthy])]⟩ (List.mem_singleton.2 rfl) (by decide +kernel)

end Dot.Graph

end DotBinding

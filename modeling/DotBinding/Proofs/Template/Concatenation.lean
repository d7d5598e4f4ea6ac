import DotBinding.Proofs.Dot.AttributeReading
import DotBinding.Proofs.Dot.Splitting

/-!
# Texts one after the other

Two texts that are read, with a line end between them, are read as the graphs of both. No item and
no comment of the first text goes on in the second, since a line end stops them all, and behind a
complete text the reader is where it starts. So a template of both texts binds to what the template
of each of them binds to, one after the other, and fails as the first of them that fails.
-/

namespace DotBinding

namespace Dot

/-! ## The graphs of two texts -/

lemma Point.eq_graph_of_missing?_eq_none {p : Point} (h : p.missing? = none) : p = .graph := by
  cases p with
  | graph => rfl
  | _ => cases h

/-- Behind items that are complete, more items are read as from the start. -/
lemma read?_append {p : Point} {items : List Lexeme} {graphs : List Graph}
    (h : read? p items = some graphs) (more : List Lexeme) :
    read? p (items ++ more) = (read? .graph more).map (graphs ++ ·) := by
  rcases read?_append_cases p items with hnone | ⟨earlier, next, hnext⟩
  · have hrefused := hnone []
    rw [List.append_nil, h] at hrefused
    cases hrefused
  · have hend := hnext []
    rw [List.append_nil, h, read?] at hend
    split at hend
    · next hmissing =>
      rw [Option.map_some, List.append_nil] at hend
      obtain rfl := Option.some.inj hend
      rw [hnext, Point.eq_graph_of_missing?_eq_none hmissing]
    · cases hend

lemma parse_lines {s₁ s₂ : String} {graphs₁ graphs₂ : List Graph} (h₁ : parse s₁ = .ok graphs₁)
    (h₂ : parse s₂ = .ok graphs₂) : parse (s₁ ++ "\n" ++ s₂) = .ok (graphs₁ ++ graphs₂) := by
  obtain ⟨items₁, hscans₁, hread₁⟩ := parse_eq_ok_iff.mp h₁
  obtain ⟨items₂, hscans₂, hread₂⟩ := parse_eq_ok_iff.mp h₂
  rw [scans_iff_splits] at hscans₁ hscans₂
  refine parse_eq_ok_iff.mpr ⟨items₁ ++ items₂, ?_, ?_⟩
  · have htext : (s₁ ++ "\n" ++ s₂).toList = s₁.toList ++ '\n' :: s₂.toList := by
      simp [String.toList_append]
    rw [scans_iff_splits, htext]
    exact hscans₁.append_blank rfl (by decide) (by decide +kernel) (Or.inl rfl) hscans₂
  · rw [read?_append hread₁, hread₂]
    rfl

end Dot

/-! ## Bindings one after the other -/

namespace Output

variable {σ : Type}

lemma result_andThen (a b : Output σ) :
    (a.andThen b).result = (do
      let (statements, gaps) ← a.result
      let (statements', gaps') ← b.result
      return (statements ++ statements', gaps ++ gaps')) := by
  obtain ⟨_, _, f⟩ := a
  obtain ⟨_, _, f'⟩ := b
  cases f <;> cases f' <;> rfl

end Output

namespace Bound

variable {σ : Type}

lemma output_andThen (a b : Bound σ) : (a.andThen b).output = a.output.andThen b.output := by
  unfold andThen Output.andThen
  cases a.output.failure? <;> rfl

lemma andThen_assoc (a b c : Bound σ) : (a.andThen b).andThen c = a.andThen (b.andThen c) := by
  obtain ⟨⟨_, _, f⟩, _⟩ := a
  obtain ⟨⟨_, _, f'⟩, _⟩ := b
  cases f <;> cases f' <;> simp [andThen, Output.andThen]

lemma join_append (a b : List (Bound σ)) : join (a ++ b) = (join a).andThen (join b) := by
  induction a with
  | nil => rfl
  | cons first rest ih =>
    change first.andThen (join (rest ++ b)) = (first.andThen (join rest)).andThen (join b)
    rw [ih, andThen_assoc]

end Bound

/-- Whether parts put a text together and bring transforms along. -/
structure Part.Give (parts : List Part) (text : String) (ts : List Transform) : Prop where
  describe_eq : describe parts = .ok text
  transforms_eq : parts.filterMap transform? = ts

namespace Template

lemma build_dot {parts : List Part} {s : String} {ts : List Transform} {registry : Registry}
    {graphs : List Dot.Graph} (hparts : Part.Give parts s ts)
    (hregistry : Registry.ofList ts = .ok registry) (hgraphs : Dot.parse s = .ok graphs) :
    build .dot parts = .ok ⟨s, graphs, registry⟩ := by
  have hgiven : Registry.ofList (parts.filterMap Part.transform?) = .ok registry := by
    rw [hparts.transforms_eq, hregistry]
  exact build_eq_ok hgiven hparts.describe_eq hgraphs

/-- Two texts with a line end between them. The graphs of the whole are those of the first text and
those of the second. With the same transforms, the template of the whole makes the calls of both
templates and gives the statements and the gaps of both, in this order; it fails as the first
template does, or else as the second. -/
theorem bind_lines {s₁ s₂ : String} {graphs₁ graphs₂ : List Dot.Graph}
    (h₁ : Dot.parse s₁ = .ok graphs₁) (h₂ : Dot.parse s₂ = .ok graphs₂) :
    Dot.parse (s₁ ++ "\n" ++ s₂) = .ok (graphs₁ ++ graphs₂) ∧
    ∀ (ts : List Transform) (registry : Registry), Registry.ofList ts = .ok registry →
      ∀ parts₁ parts₂ parts, Part.Give parts₁ s₁ ts → Part.Give parts₂ s₂ ts →
        Part.Give parts (s₁ ++ "\n" ++ s₂) ts →
        ∃ t₁ t₂ t, build .dot parts₁ = .ok t₁ ∧ build .dot parts₂ = .ok t₂ ∧
          build .dot parts = .ok t ∧
          ∀ {σ : Type} (factory : Factory σ) (values : Value),
            t.bind factory values = (t₁.bind factory values).andThen (t₂.bind factory values) ∧
            (t.bind factory values).output.result = (do
              let (statements₁, gaps₁) ← (t₁.bind factory values).output.result
              let (statements₂, gaps₂) ← (t₂.bind factory values).output.result
              return (statements₁ ++ statements₂, gaps₁ ++ gaps₂)) := by
  have hlines := Dot.parse_lines h₁ h₂
  refine ⟨hlines, ?_⟩
  intro ts registry hregistry parts₁ parts₂ parts hparts₁ hparts₂ hparts
  refine ⟨_, _, _, build_dot hparts₁ hregistry h₁, build_dot hparts₂ hregistry h₂,
    build_dot hparts hregistry hlines, ?_⟩
  intro σ factory values
  have hbind : bind factory values ⟨s₁ ++ "\n" ++ s₂, graphs₁ ++ graphs₂, registry⟩ =
      (bind factory values ⟨s₁, graphs₁, registry⟩).andThen
        (bind factory values ⟨s₂, graphs₂, registry⟩) := by
    rw [bind, List.map_append, Bound.join_append]
    rfl
  refine ⟨hbind, ?_⟩
  rw [hbind, Bound.output_andThen, Output.result_andThen]

/-- A text that ends in a comment, another one, and a transform for a name of the latter. -/
def commentedSource : String :=
  "digraph \x7b A \x7d // A"

def plainSource : String :=
  "graph \x7b B \x7d"

def nameless : Transform :=
  .ofNode "B" ⟨"nameless", fun _ => .ok (.map [(.text "label", .text "X")])⟩

def oneEach : Value :=
  .map [(.text "A", .map [(.text "id", .int 1)]), (.text "B", .map [(.text "id", .int 2)])]

/-- The comment does not reach into the second text, wherever the transform stands. -/
theorem bind_commentedSource :
    Dot.parse commentedSource = .ok [⟨.digraph, "", false, [.node ⟨"A", []⟩]⟩] ∧
    Dot.parse plainSource = .ok [⟨.graph, "", false, [.node ⟨"B", []⟩]⟩] ∧
    Registry.ofList [nameless] = .ok ⟨[("B", nameless)]⟩ ∧
    ∃ t, build .dot [.transform nameless, .value (.text commentedSource), .value (.text "\n"),
        .value (.text plainSource)] = .ok t ∧
      (t.bind .descriptors oneEach).output.result = .ok
        ([.node (.one "A") "id" ⟨[(.text "id", .int 1)]⟩,
          .node (.one "X") "id" ⟨[(.text "label", .text "X")]⟩], []) := by
  have h₁ : Dot.parse commentedSource = .ok [⟨.digraph, "", false, [.node ⟨"A", []⟩]⟩] := rfl
  have h₂ : Dot.parse plainSource = .ok [⟨.graph, "", false, [.node ⟨"B", []⟩]⟩] := rfl
  have hregistry : Registry.ofList [nameless] = .ok ⟨[("B", nameless)]⟩ := rfl
  refine ⟨h₁, h₂, hregistry, ?_⟩
  have hgive₁ : Part.Give [.transform nameless, .value (.text commentedSource)] commentedSource
      [nameless] := ⟨rfl, rfl⟩
  have hgive₂ : Part.Give [.value (.text plainSource), .transform nameless] plainSource
      [nameless] := ⟨rfl, rfl⟩
  have hgive : Part.Give [.transform nameless, .value (.text commentedSource),
      .value (.text "\n"), .value (.text plainSource)]
      (commentedSource ++ "\n" ++ plainSource) [nameless] := ⟨rfl, rfl⟩
  obtain ⟨t₁, t₂, t, hbuild₁, hbuild₂, hbuild, hbind⟩ :=
    (bind_lines h₁ h₂).2 [nameless] _ hregistry _ _ _ hgive₁ hgive₂ hgive
  obtain rfl := Except.ok.inj ((build_dot hgive₁ hregistry h₁).symm.trans hbuild₁)
  obtain rfl := Except.ok.inj ((build_dot hgive₂ hregistry h₂).symm.trans hbuild₂)
  refine ⟨t, hbuild, ?_⟩
  rw [(hbind .descriptors oneEach).2]
  rfl

end Template

end DotBinding

import DotBinding.CommandLine.Run
import DotBinding.Proofs.Dot.Splitting
import DotBinding.Proofs.Dot.AttributeReading
import DotBinding.Service

/-!
# Bodies between braces

A text that is the body of one graph on lines of its own keeps its statements when a template puts
the braces on the same line, in either kind of graph. The one exception is a text that ends in a
line comment: the closing brace becomes part of the comment, and the template is not accepted.
-/

namespace DotBinding

namespace Dot

open Grammar

/-! ## The items of a body -/

/-- The items of a body between the braces of a graph without a name. -/
def bracedItems (kind : GraphKind) (items : List Lexeme) : List Lexeme :=
  .word kind.text :: .mark .openBrace :: items

lemma read?_bracedItems (kind : GraphKind) (items : List Lexeme) :
    read? .graph (bracedItems kind items) =
      read? (.statement (.graph ⟨false, kind, ""⟩ [])) items := by
  cases kind <;> rfl

lemma read?_closed_iff {kind : GraphKind} {items : List Lexeme} {g : Graph} :
    read? .graph (bracedItems kind (items ++ [.mark .closeBrace])) = some [g] ↔
      ∃ body : BodyTree, body.items = items ∧ g = ⟨kind, "", false, body.statements⟩ := by
  rw [read?_bracedItems, read?_eq_some_iff]
  constructor
  · rintro ⟨body, rest, hitems, d, rfl, hgraphs⟩
    obtain ⟨rfl, hd⟩ := List.cons.inj hgraphs
    obtain rfl : d = [] := List.map_eq_nil_iff.mp hd.symm
    exact ⟨body, (List.append_cancel_right hitems).symm, rfl⟩
  · rintro ⟨body, rfl, rfl⟩
    exact ⟨body, [], rfl, [], rfl, rfl⟩

/-- Where a closing brace may stand, it is what is missing at the end of a text. -/
lemma Point.missing?_of_step_closeBrace {p next : Point} {completed : Option Graph}
    (h : p.step (.mark .closeBrace) = .ok (next, completed)) :
    p.missing? = some (.expectedMark .closeBrace none) := by
  cases p with
  | statement | separator | subgraphEnd | leadingName | chainName | lists => rfl
  | _ => cases h

lemma readFrom_unclosed {stop : Position} {p : Point} {tokens : List Token} {graphs : List Graph}
    (h : read? p (tokens.map Token.lexeme ++ [.mark .closeBrace]) = some graphs) :
    readFrom stop p tokens = .error ⟨.expectedMark .closeBrace none, stop⟩ := by
  induction tokens generalizing p graphs with
  | nil =>
    rw [List.map_nil, List.nil_append, read?] at h
    cases hstep : p.step (.mark .closeBrace) with
    | error f =>
      rw [hstep] at h
      cases h
    | ok taken => rw [readFrom, Point.missing?_of_step_closeBrace hstep]
  | cons t rest ih =>
    rw [List.map_cons, List.cons_append, read?] at h
    cases hstep : p.step t.lexeme with
    | error f =>
      rw [hstep] at h
      cases h
    | ok taken =>
      obtain ⟨next, completed⟩ := taken
      simp only [hstep] at h
      cases completed with
      | none =>
        rw [readFrom, hstep]
        exact ih h
      | some g =>
        obtain ⟨more, hmore, -⟩ := Option.map_eq_some_iff.mp h
        simp only [readFrom, hstep, ih hmore]
        rfl

/-! ## The text of a body -/

/-- A text as the body of a graph, on lines of its own. -/
def onItsOwnLines (body : String) : String :=
  "digraph \x7b\n" ++ body ++ "\n\x7d"

/-- The template whose braces make a graph of a kind. -/
def GraphKind.template : GraphKind → TemplateKind
  | graph => .graph
  | digraph => .digraph

open Scanner in
lemma splits_opening (kind : GraphKind) (rest : List Char) :
    Splits (kind.text.toList ++ ' ' :: '{' :: rest) [.word kind.text, .mark .openBrace] rest := by
  have hbrace : Splits (' ' :: '{' :: rest) [.mark .openBrace] rest :=
    (Splits.blank (by decide) (by decide) (by decide) (by decide)).trans
      (Splits.mark .openBrace rest)
  have hword {w : List Char} (hw : AttributeText.isWord w = true) :
      Splits (w ++ ' ' :: '{' :: rest) [.word (String.ofList w), .mark .openBrace] rest :=
    (AttributeText.splits_word w hw (by decide +kernel)).trans hbrace
  cases kind with
  | graph => exact hword (w := "graph".toList) (by decide)
  | digraph => exact hword (w := "digraph".toList) (by decide)

lemma splits_braced_iff {kind : GraphKind} {blank : Char} {rest : List Char}
    {all : List Lexeme} (hblank : Text.isBlank blank = true) :
    Splits (kind.text.toList ++ ' ' :: '{' :: blank :: rest) all [] ↔
      ∃ items, all = bracedItems kind items ∧ Splits rest items [] := by
  constructor
  · intro h
    obtain ⟨items, rfl, hitems⟩ := (splits_opening kind _).exists_append h
    exact ⟨items, rfl, (Splits.blank_cons_iff hblank).mp hitems⟩
  · rintro ⟨items, rfl, hitems⟩
    exact (splits_opening kind _).trans ((Splits.blank_cons_iff hblank).mpr hitems)

lemma splits_closeBrace : Splits ['}'] [.mark .closeBrace] [] :=
  Splits.mark .closeBrace []

/-- The items in front of the closing brace are those of the body alone. -/
lemma exists_body_of_parse {s : String} {g : Graph} (h : parse (onItsOwnLines s) = .ok [g]) :
    ∃ body : BodyTree, Splits s.toList body.items [] ∧
      g = ⟨.digraph, "", false, body.statements⟩ := by
  obtain ⟨all, hscans, hread⟩ := parse_eq_ok_iff.mp h
  have hsplits : Splits (GraphKind.digraph.text.toList ++
      ' ' :: '{' :: '\n' :: (s.toList ++ ['\n', '}'])) all [] := by
    rw [scans_iff_splits] at hscans
    simpa [onItsOwnLines, String.toList_append, GraphKind.text] using hscans
  obtain ⟨row, rfl, hrow⟩ := (splits_braced_iff (by decide)).mp hsplits
  obtain ⟨items, hitems⟩ := hrow.of_append (List.all_eq_true.mp (by decide +kernel))
  have hclosed := hitems.append_blank rfl (show Text.isBlank '\n' = true by decide)
    (by decide +kernel) (Or.inl rfl) splits_closeBrace
  obtain rfl := hclosed.unique hrow
  obtain ⟨body, rfl, hg⟩ := read?_closed_iff.mp hread
  exact ⟨body, hitems, hg⟩

lemma toList_wrap (kind : GraphKind) (s : String) :
    (kind.template.wrap s).toList =
      kind.text.toList ++ ' ' :: '{' :: ' ' :: (s.toList ++ [' ', '}']) := by
  cases kind <;>
    simp [GraphKind.template, TemplateKind.wrap, TemplateKind.name, GraphKind.text,
      String.toList_append]

lemma parse_wrap {kind : GraphKind} {s : String} {body : BodyTree}
    (h : Splits s.toList body.items []) (hcomment : ¬EndsInComment s.toList) :
    parse (kind.template.wrap s) = .ok [⟨kind, "", false, body.statements⟩] := by
  refine parse_eq_ok_iff.mpr ⟨_, ?_, read?_closed_iff.mpr ⟨body, rfl, rfl⟩⟩
  rw [scans_iff_splits, toList_wrap]
  exact (splits_braced_iff (by decide)).mpr ⟨_, rfl, h.append_blank rfl (by decide)
    (by decide +kernel) (Or.inr hcomment) splits_closeBrace⟩

lemma parse_wrap_of_endsInComment (kind : GraphKind) {s : String} {body : BodyTree}
    (h : Splits s.toList body.items []) (hcomment : EndsInComment s.toList) :
    ∃ p, parse (kind.template.wrap s) = .error ⟨.expectedMark .closeBrace none, p⟩ := by
  have hscans : Scans (kind.template.wrap s).toList (bracedItems kind body.items) := by
    rw [scans_iff_splits, toList_wrap]
    exact (splits_braced_iff (by decide)).mpr
      ⟨_, rfl, h.append_of_endsInComment hcomment (by decide)⟩
  obtain ⟨ts, hscan, hitems⟩ := hscans .start
  have hread : read? .graph (bracedItems kind (body.items ++ [.mark .closeBrace])) = some
      [⟨kind, "", false, body.statements⟩] := read?_closed_iff.mpr ⟨body, rfl, rfl⟩
  refine ⟨ts.stop, ?_⟩
  rw [parse, scan, hscan]
  exact readFrom_unclosed (by rw [hitems]; exact hread)

end Dot

namespace Template

lemma build_text (kind : TemplateKind) (s : String) :
    build kind [.value (.text s)] =
      ((Dot.parse (kind.wrap s)).mapError .parse).map fun graphs =>
        ⟨kind.wrap s, graphs, .empty⟩ := by
  have hbody : Part.describe [.value (.text s)] = .ok s := by
    change Except.ok (String.join [s]) = _
    rw [String.join_cons, String.join_nil, String.append_empty]
  exact build_eq rfl hbody

lemma output_bind_singleton {σ : Type} (factory : Factory σ) (values : Value)
    (description : String) (g : Dot.Graph) (registry : Registry) :
    ((Template.mk description [g] registry).bind factory values).output =
      (g.bind factory registry values).output := by
  rw [bind, List.map_singleton, Bound.join, List.foldr_cons, List.foldr_nil, Bound.andThen]
  cases (g.bind factory registry values).output.failure? with
  | some e => rfl
  | none => exact Output.andThen_empty _

end Template

lemma Service.BindRequest.run_eq (kind : TemplateKind) (format : Format) (s : String)
    (values : Record) :
    run ⟨s, kind.name, format.name, values⟩ =
      (Template.build kind [.value (.text s)]).bind fun t =>
        (t.bind format.factory values.toValue).output.result.mapError .bind := by
  have hformat : Format.named format.name = .ok format := by cases format <;> rfl
  have hkind : TemplateKind.named kind.name = .ok kind := by cases kind <;> rfl
  rw [run, hformat, hkind]
  rfl

namespace Template

open Dot (EndsInComment onItsOwnLines)

/-- A body of one graph is the body of a template of either kind, also for the program and the
service, unless it ends in a line comment. Then the closing brace is missing for all of them. -/
theorem build_body {s : String} {g : Dot.Graph} (h : Dot.parse (onItsOwnLines s) = .ok [g])
    (kind : Dot.GraphKind) :
    g = ⟨.digraph, "", false, g.statements⟩ ∧
    (¬EndsInComment s.toList →
      build kind.template [.value (.text s)] =
        .ok ⟨kind.template.wrap s, [⟨kind, "", false, g.statements⟩], .empty⟩ ∧
      CommandLine.runParse s kind.template =
        ⟨0, CommandLine.summary ⟨kind, "", false, g.statements⟩,
          CommandLine.templateLog kind.template s⟩ ∧
      ∀ (format : Format) (values : Record),
        Service.BindRequest.run ⟨s, kind.template.name, format.name, values⟩ =
          ((Dot.Graph.mk kind "" false g.statements).bind format.factory .empty
            values.toValue).output.result.mapError .bind) ∧
    (EndsInComment s.toList → ∃ p,
      build kind.template [.value (.text s)] =
        .error (.parse ⟨.expectedMark .closeBrace none, p⟩) ∧
      (CommandLine.runParse s kind.template).exit = 1 ∧
      ∀ (format : Format) (values : Record),
        Service.BindRequest.run ⟨s, kind.template.name, format.name, values⟩ =
          .error (.parse ⟨.expectedMark .closeBrace none, p⟩)) := by
  obtain ⟨body, hbody, rfl⟩ := Dot.exists_body_of_parse h
  refine ⟨rfl, ?_, ?_⟩
  · intro hcomment
    have hbuild : build kind.template [.value (.text s)] =
        .ok ⟨kind.template.wrap s, [⟨kind, "", false, body.statements⟩], .empty⟩ := by
      rw [build_text, Dot.parse_wrap hbody hcomment]
      rfl
    refine ⟨hbuild, ?_, fun format values => ?_⟩
    · rw [CommandLine.runParse, hbuild]
      change CommandLine.Outcome.mk 0 (String.join [_]) _ = _
      rw [String.join_cons, String.join_nil, String.append_empty]
    · rw [Service.BindRequest.run_eq, hbuild]
      change (Output.result _).mapError _ = _
      rw [output_bind_singleton]
  · intro hcomment
    obtain ⟨p, hparse⟩ := Dot.parse_wrap_of_endsInComment kind hbody hcomment
    have hbuild : build kind.template [.value (.text s)] =
        .error (.parse ⟨.expectedMark .closeBrace none, p⟩) := by
      rw [build_text, hparse]
      rfl
    refine ⟨p, hbuild, ?_, fun format values => ?_⟩
    · rw [CommandLine.runParse, hbuild]
      rfl
    · rw [Service.BindRequest.run_eq, hbuild]
      rfl

/-- A node with a comment behind it is the body of a graph, but not of a template. -/
theorem build_commented :
    Dot.parse (onItsOwnLines "A // x") = .ok [⟨.digraph, "", false, [.node ⟨"A", []⟩]⟩] ∧
    EndsInComment "A // x".toList ∧
    ∃ p, build .digraph [.value (.text "A // x")] =
      .error (.parse ⟨.expectedMark .closeBrace none, p⟩) := by
  have hparse : Dot.parse (onItsOwnLines "A // x") =
      .ok [⟨.digraph, "", false, [.node ⟨"A", []⟩]⟩] := rfl
  have hcomment : EndsInComment "A // x".toList :=
    ⟨[.word "A"], '/', "/ x".toList,
      .item (n := 0) rfl rfl (.gap (n := 0) rfl (.done _)), Or.inr ⟨rfl, rfl⟩, by decide⟩
  obtain ⟨-, -, hlost⟩ := build_body hparse .digraph
  obtain ⟨p, hbuild, -⟩ := hlost hcomment
  exact ⟨hparse, hcomment, p, hbuild⟩

end Template

end DotBinding

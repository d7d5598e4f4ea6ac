import DotBinding.Proofs.Template.Concatenation

/-!
# Compilations and bindings in any order

Compilations add their gaps to a log that they share, and bindings of templates have a log of their
own. Whatever was asked for before, and whatever of it failed, an answer is the one that is given to
the same request alone. A compilation that fails leaves the log as it was, however many gaps were
found in front of the failure, and a binding that fails has nothing of the graphs in front of the
one that fails.
-/

namespace DotBinding

variable {σ : Type}

/-- The compilation of one graph, or the binding of a template. -/
inductive Request (σ : Type) where
  | compile (factory : Factory σ) (registry : Registry) (values : Value) (graph : Dot.Graph)
  | bind (factory : Factory σ) (values : Value) (template : Template)

/-- What a request is answered with: statements, and gaps with those of a template, or an error. -/
inductive Answer (σ : Type) where
  | compiled (answer : Traced BindFailure (List σ))
  | bound (answer : Traced BindFailure (List σ × List Diagnostic))

def Answer.failure? : Answer σ → Option BindFailure
  | compiled ⟨_, .error e⟩ | bound ⟨_, .error e⟩ => some e
  | compiled ⟨_, .ok _⟩ | bound ⟨_, .ok _⟩ => none

namespace Request

/-- The log behind a request, and the answer to it. -/
def serve (log : List Diagnostic) : Request σ → List Diagnostic × Answer σ
  | compile factory registry values g =>
    let (log, answer) := Dot.Graph.bindInto factory registry values log [g]
    (log, .compiled answer)
  | bind factory values t =>
    let bound := t.bind factory values
    (log, .bound ⟨bound.calls, bound.output.result⟩)

/-- The log behind requests served one after the other, and the answers to them. -/
def serveAll (log : List Diagnostic) : List (Request σ) → List Diagnostic × List (Answer σ)
  | [] => (log, [])
  | r :: rest =>
    let (log, answer) := r.serve log
    let (log, answers) := serveAll log rest
    (log, answer :: answers)

end Request

/-! ## One request -/

namespace Dot.Graph

variable {factory : Factory σ} {registry : Registry} {values : Value}

/-- What a log held before stays in front of what is added, and changes nothing else. -/
lemma bindInto_eq (log : List Diagnostic) (graphs : List Dot.Graph) :
    bindInto factory registry values log graphs =
      (log ++ (bindInto factory registry values [] graphs).1,
        (bindInto factory registry values [] graphs).2) := by
  induction graphs generalizing log with
  | nil => simp [bindInto]
  | cons g rest ih =>
    unfold bindInto
    cases hresult : (g.bind factory registry values).output.result with
    | error e => simp [hresult]
    | ok made =>
      obtain ⟨statements, gaps⟩ := made
      simp only [hresult, ih (log ++ gaps), ih gaps, List.nil_append, List.append_assoc]

lemma bindInto_singleton_of_failure {g : Dot.Graph} {e : BindFailure}
    (h : (g.bind factory registry values).output.failure? = some e) :
    bindInto factory registry values [] [g] =
      ([], ⟨(g.bind factory registry values).calls, .error e⟩) := by
  rw [bindInto, Output.result_eq_error_iff.mpr h]

lemma bindInto_singleton_of_success {g : Dot.Graph}
    (h : (g.bind factory registry values).output.failure? = none) :
    bindInto factory registry values [] [g] =
      ((g.bind factory registry values).output.diagnostics,
        ⟨(g.bind factory registry values).calls,
          .ok (g.bind factory registry values).output.statements⟩) := by
  rw [bindInto, Output.result_eq_ok_iff.mpr ⟨h, rfl, rfl⟩]
  simp [bindInto, Traced.pure, Traced.ofExcept, Except.map]

end Dot.Graph

/-- A template has the statements and the gaps of all its graphs, or only the first error. -/
lemma Template.result_bind (factory : Factory σ) (values : Value) (t : Template) :
    (t.bind factory values).output.result =
      (t.graphs.mapM fun g : Dot.Graph => (g.bind factory t.registry values).output.result).map
        fun made => (made.flatMap (·.1), made.flatMap (·.2)) := by
  obtain ⟨description, graphs, registry⟩ := t
  change (Bound.join (graphs.map (·.bind factory registry values))).output.result = _
  induction graphs with
  | nil => rfl
  | cons g rest ih =>
    rw [List.map_cons, List.mapM_cons]
    change ((g.bind factory registry values).andThen (Bound.join _)).output.result = _
    rw [Bound.output_andThen, Output.result_andThen, ih]
    cases (g.bind factory registry values).output.result with
    | error e => rfl
    | ok made =>
      cases rest.mapM fun g : Dot.Graph => (g.bind factory registry values).output.result <;> rfl

namespace Request

/-- What a log held before stays in front of what a request alone leaves in it, and the answer is
the one given to it alone. -/
lemma serve_eq (log : List Diagnostic) (r : Request σ) :
    r.serve log = (log ++ (r.serve []).1, (r.serve []).2) := by
  cases r with
  | compile factory registry values g =>
    rw [serve, Dot.Graph.bindInto_eq]
    rfl
  | bind factory values t => simp [serve]

/-- A request that fails leaves nothing in a log. -/
lemma serve_of_failure {r : Request σ} {e : BindFailure} (h : (r.serve []).2.failure? = some e) :
    (r.serve []).1 = [] := by
  cases r with
  | compile factory registry values g =>
    rw [serve] at h ⊢
    cases hfail : (g.bind factory registry values).output.failure? with
    | some e => rw [Dot.Graph.bindInto_singleton_of_failure hfail]
    | none =>
      rw [Dot.Graph.bindInto_singleton_of_success hfail] at h
      cases h
  | bind factory values t => rfl

/-! ## Requests one after the other -/

lemma serveAll_eq (log : List Diagnostic) (requests : List (Request σ)) :
    serveAll log requests =
      (log ++ requests.flatMap fun r => (r.serve []).1, requests.map fun r => (r.serve []).2) := by
  induction requests generalizing log with
  | nil => simp [serveAll]
  | cons r rest ih => simp [serveAll, serve_eq log, ih]

/-- Behind any requests, a request has the answer that it has alone. If it fails, the log stays as
the requests in front of it left it, and otherwise it has the gaps behind it that the request alone
leaves in an empty log. These are all the gaps of a graph that does not fail, and none from a
template, which gives the statements and the gaps of all its graphs, one behind the other, or only
the error of the first one that fails. -/
theorem serveAll_append_singleton (log : List Diagnostic) (before : List (Request σ))
    (r : Request σ) :
    (serveAll log (before ++ [r])).2 = (before ++ [r]).map (fun r => (r.serve []).2) ∧
    (∀ e, (r.serve []).2.failure? = some e →
      (serveAll log (before ++ [r])).1 = (serveAll log before).1) ∧
    ((r.serve []).2.failure? = none →
      (serveAll log (before ++ [r])).1 = (serveAll log before).1 ++ (r.serve []).1) ∧
    match r with
    | .compile factory registry values g =>
      (∀ e, (g.bind factory registry values).output.failure? = some e →
        r.serve [] = ([], .compiled ⟨(g.bind factory registry values).calls, .error e⟩)) ∧
      ((g.bind factory registry values).output.failure? = none →
        r.serve [] = ((g.bind factory registry values).output.diagnostics,
          .compiled ⟨(g.bind factory registry values).calls,
            .ok (g.bind factory registry values).output.statements⟩))
    | .bind factory values t =>
      r.serve [] = ([], .bound ⟨(t.bind factory values).calls,
        (t.graphs.mapM fun g : Dot.Graph => (g.bind factory t.registry values).output.result).map
          fun made => (made.flatMap (·.1), made.flatMap (·.2))⟩) := by
  simp only [serveAll_eq, List.flatMap_append, List.flatMap_singleton, List.append_assoc]
  refine ⟨trivial, fun e h => ?_, fun _ => trivial, ?_⟩
  · rw [serve_of_failure h, List.append_nil]
  · cases r with
    | compile factory registry values g =>
      refine ⟨fun e h => ?_, fun h => ?_⟩
      · rw [serve, Dot.Graph.bindInto_singleton_of_failure h]
      · rw [serve, Dot.Graph.bindInto_singleton_of_success h]
    | bind factory values t =>
      simp only [serve]
      rw [Template.result_bind]

/-- Two nodes, of which only the second has a value. -/
def gapGraph : Dot.Graph :=
  ⟨.digraph, "", false, [.node ⟨"A", []⟩, .node ⟨"B", []⟩]⟩

def gapValues : Value :=
  .map [(.text "B", .map [(.text "id", .int 1)])]

def rejectingB : Registry :=
  ⟨[("B", .ofNode "B" ⟨"reject", fun _ => .error (.rejected "no")⟩)]⟩

/-- The gap that is found in front of the failure is not in the log; the one that the first
compilation left there is. -/
theorem serveAll_rejecting :
    (gapGraph.bind .descriptors rejectingB gapValues).output.diagnostics = [.missingNode "A"] ∧
    (serve [] (.compile .descriptors rejectingB gapValues gapGraph)).2.failure? =
      some (.function (.rejected "no")) ∧
    (serveAll [.shortEdge "C -> D"] [.compile .descriptors .empty gapValues gapGraph,
      .compile .descriptors rejectingB gapValues gapGraph]).1 =
        [.shortEdge "C -> D", .missingNode "A"] := by
  have hfails : (serve [] (.compile .descriptors rejectingB gapValues gapGraph)).2.failure? =
      some (.function (.rejected "no")) := rfl
  obtain ⟨-, hkept, -⟩ := serveAll_append_singleton [.shortEdge "C -> D"]
    [.compile .descriptors .empty gapValues gapGraph]
    (.compile .descriptors rejectingB gapValues gapGraph)
  exact ⟨rfl, hfails, (hkept _ hfails).trans rfl⟩

end Request

end DotBinding

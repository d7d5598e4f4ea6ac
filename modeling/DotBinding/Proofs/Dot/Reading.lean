import DotBinding.Proofs.Dot.Expectation

/-!
# Reading by the grammar

Taking one item leads from a point to the point that expects the rest. By induction on the items,
what is read from a point is what the grammar lets follow there.
-/

namespace DotBinding.Dot

open Grammar

/-- The graphs read from a point on, leaving places in the text aside. -/
def read? (p : Point) : List Lexeme → Option (List Graph)
  | [] => if p.missing? = none then some [] else none
  | l :: rest =>
    match p.step l with
    | .error _ => none
    | .ok (next, none) => read? next rest
    | .ok (next, some g) => (read? next rest).map (g :: ·)

lemma readFrom_eq_ok_iff (stop : Position) (p : Point) (tokens : List Token)
    (graphs : List Graph) :
    readFrom stop p tokens = .ok graphs ↔ read? p (tokens.map Token.lexeme) = some graphs := by
  induction tokens generalizing p graphs with
  | nil =>
    rw [readFrom, List.map_nil, read?]
    cases p.missing? <;> simp
  | cons t rest ih =>
    rw [readFrom, List.map_cons, read?]
    cases p.step t.lexeme with
    | error f => simp
    | ok taken =>
      obtain ⟨next, completed⟩ := taken
      cases completed with
      | none => exact ih next graphs
      | some g =>
        simp only [Option.map_eq_some_iff, ← ih]
        cases readFrom stop next rest <;> simp [Except.map]

/-- Some items are refused whatever follows them, or lead to a point where the rest is read. -/
lemma read?_append_cases (p : Point) (items : List Lexeme) :
    (∀ more, read? p (items ++ more) = none) ∨
      ∃ graphs next, ∀ more, read? p (items ++ more) = (read? next more).map (graphs ++ ·) := by
  induction items generalizing p with
  | nil => exact Or.inr ⟨[], p, fun more => Option.map_id'.symm⟩
  | cons l rest ih =>
    simp only [List.cons_append, read?]
    cases p.step l with
    | error f => exact Or.inl fun more => rfl
    | ok taken =>
      obtain ⟨next, completed⟩ := taken
      cases completed with
      | none => exact ih next
      | some g =>
        rcases ih next with hnone | ⟨graphs, behind, hbehind⟩
        · exact Or.inl fun more => by simp only [hnone, Option.map_none]
        · refine Or.inr ⟨g :: graphs, behind, fun more => ?_⟩
          simp only [hbehind, Option.map_map]
          rfl

namespace Lexeme

@[simp] lemma keyword?_mark (m : Mark) : (mark m).keyword? = none :=
  rfl

@[simp] lemma keyword?_edgeOp (op : EdgeOp) : (edgeOp op).keyword? = none :=
  rfl

@[simp] lemma id?_mark (m : Mark) : (mark m).id? = none :=
  rfl

@[simp] lemma id?_edgeOp (op : EdgeOp) : (edgeOp op).id? = none :=
  rfl

@[simp] lemma name?_mark (m : Mark) : (mark m).name? = none :=
  rfl

lemma name?_eq_some_iff {l : Lexeme} {n : String} :
    l.name? = some n ↔ l.keyword? = none ∧ l.id? = some n := by
  unfold name?
  cases l.keyword? <;> simp

end Lexeme

@[simp] lemma expects_proceed (p : Point) (items : List Lexeme) (graphs : List Graph) :
    Step.Expects (Point.proceed p) items graphs ↔ p.Expects items graphs :=
  Iff.rfl

@[simp] lemma expects_refuse (f : Fault) (items : List Lexeme) (graphs : List Graph) :
    Step.Expects (Point.refuse f) items graphs ↔ False :=
  Iff.rfl

namespace Expected

variable {l : Lexeme} {blocks : Blocks} {items : List Lexeme} {graphs : List Graph}

lemma opening_cons {opened : Blocks} :
    Opening opened (l :: items) graphs ↔ Step.Expects (Point.openStep opened l) items graphs := by
  unfold Opening Point.openStep
  rw [exists_mark_cons]
  split <;> simp_all [Point.Expects]

lemma close_expects :
    Step.Expects (Point.close blocks) items graphs ↔ blocks.Closed [] items graphs := by
  cases blocks with
  | graph header statements =>
    simp only [Point.close, Step.Expects, Point.Expects, Blocks.Closed, List.append_nil]
    constructor
    · rintro ⟨_, rfl, d, rfl, rfl⟩
      exact ⟨d, rfl, rfl⟩
    · rintro ⟨d, rfl, rfl⟩
      exact ⟨_, rfl, d, rfl, rfl⟩
  | subgraph name statements outer =>
    rw [← separator_add_subgraph, List.append_nil]
    exact Iff.rfl

lemma exists_target {P : Target → Prop} : (∃ t, P t) ↔ P .graph ∨ P .node ∨ P .edge := by
  constructor
  · rintro ⟨t, h⟩
    cases t <;> simp [h]
  · rintro (h | h | h) <;> exact ⟨_, h⟩

lemma body_cons :
    Body blocks (l :: items) graphs ↔
      Step.Expects (Point.statementStep blocks l) items graphs := by
  rw [body_iff, statement_iff, exists_mark_cons, opening_cons, exists_keyword_cons,
    exists_name_cons (P := fun n rest => LeadingName blocks n rest graphs)]
  simp only [exists_keyword_cons, exists_target, Target.keyword, Lexeme.name?_eq_some_iff]
  unfold Point.statementStep Point.openStep
  cases hk : l.keyword? with
  | some k =>
    have hm : ∀ m, l ≠ .mark m := by
      rintro m rfl
      simp at hk
    cases k <;> simp [hm, Point.Expects]
  | none =>
    cases l with
    | mark m => cases m <;> simp [Point.Expects, close_expects]
    | edgeOp op => simp
    | word s => simp [Lexeme.id?, Point.Expects]
    | quoted s => simp [Lexeme.id?, Point.Expects]
    | numeral s => simp [Lexeme.id?, Point.Expects]

lemma separator_cons :
    Separator blocks (l :: items) graphs ↔
      Step.Expects (Point.separatorStep blocks l) items graphs := by
  rw [separator_iff, exists_mark_cons, body_cons]
  unfold Point.separatorStep
  split
  · next h =>
    subst h
    simp [Point.statementStep, Point.Expects, Lexeme.id?]
  · next h => simp [h]

lemma namedOpening_cons {opened : String → Blocks} :
    NamedOpening opened (l :: items) graphs ↔
      match l.name? with
      | some n => Opening (opened n) items graphs
      | none => Step.Expects (Point.openStep (opened "") l) items graphs := by
  rw [namedOpening_iff, opening_cons,
    exists_name_cons (P := fun n rest => Opening (opened n) rest graphs)]
  cases h : l.name? with
  | none => simp
  | some n =>
    have hm : l ≠ .mark .openBrace := by
      rintro rfl
      simp at h
    simp [Point.openStep, hm]

lemma kind_cons {strict : Bool} :
    Kind strict (l :: items) graphs ↔ Step.Expects (Point.kindStep strict l) items graphs := by
  have hkind {P : GraphKind → Prop} : (∃ k, P k) ↔ P .graph ∨ P .digraph := by
    constructor
    · rintro ⟨k, h⟩
      cases k <;> simp [h]
    · rintro (h | h) <;> exact ⟨_, h⟩
  unfold Kind Point.kindStep
  simp only [exists_keyword_cons, hkind, GraphKind.keyword]
  cases l.keyword? with
  | none => simp
  | some k => cases k <;> simp [Point.Expects]

variable {head : Head} {attributes : List Attribute}

lemma keys_cons :
    Keys blocks head attributes (l :: items) graphs ↔
      Step.Expects (Point.attributeStep blocks head attributes l) items graphs := by
  rw [keys_iff, exists_mark_cons,
    exists_id_cons (P := fun key rest => AttributeEquals blocks head attributes key rest graphs)]
  unfold Point.attributeStep
  split
  · next h =>
    subst h
    simp [Point.Expects]
  · next h =>
    cases l.id? <;> simp [h, Point.Expects]

lemma lists_cons :
    Lists blocks head attributes (l :: items) graphs ↔
      Step.Expects (Point.listsStep blocks head attributes l) items graphs := by
  rw [lists_iff, exists_mark_cons, separator_cons]
  unfold Point.listsStep
  split
  · next h =>
    subst h
    simp [Point.separatorStep, Point.statementStep, Point.Expects]
  · next h => simp [h]

lemma chain_cons {names : List String} :
    Chain blocks names (l :: items) graphs ↔
      Step.Expects (Point.step (.chainName blocks names) l) items graphs := by
  rw [chain_iff, exists_edgeOp_cons, lists_cons]
  cases l with
  | edgeOp op =>
    simp [Point.step, Point.listsStep, Point.separatorStep, Point.statementStep,
      Point.Expects]
  | _ => simp [Point.step]

lemma leadingName_cons {name : String} :
    LeadingName blocks name (l :: items) graphs ↔
      Step.Expects (Point.step (.leadingName blocks name) l) items graphs := by
  unfold LeadingName
  rw [exists_mark_cons, exists_edgeOp_cons, lists_cons]
  cases l with
  | edgeOp op =>
    simp [Point.step, Point.listsStep, Point.separatorStep, Point.statementStep,
      Point.Expects]
  | mark m =>
    cases m with
    | equals =>
      simp [Point.step, Point.listsStep, Point.separatorStep, Point.statementStep,
        Point.Expects]
    | _ => simp [Point.step]
  | _ => simp [Point.step]

lemma attributeEnd_cons :
    AttributeEnd blocks head attributes (l :: items) graphs ↔
      Step.Expects (Point.step (.attributeEnd blocks head attributes) l) items graphs := by
  have hseparator {P : Grammar.Separator → Prop} : (∃ s, P s) ↔ P .comma ∨ P .semicolon := by
    constructor
    · rintro ⟨s, h⟩
      cases s <;> simp [h]
    · rintro (h | h) <;> exact ⟨_, h⟩
  rw [attributeEnd_iff, keys_cons]
  simp only [exists_mark_cons, hseparator, Separator.mark, Point.step]
  split
  · next h =>
    rcases h with rfl | rfl <;>
      simp [Point.attributeStep, Point.Expects, Lexeme.id?]
  · next h =>
    rw [not_or] at h
    simp [h]

lemma endpoint_cons {names : List String} :
    Endpoint blocks names (l :: items) graphs ↔
      Step.Expects (Point.endpointStep blocks names l) items graphs := by
  unfold Endpoint Point.endpointStep
  rw [exists_end_cons (P := fun n rest => Chain blocks (names ++ [n]) rest graphs)]
  split
  · next h =>
    rcases h with h | rfl
    · simp [h]
    · simp
  · next h =>
    rw [not_or] at h
    cases l.id? <;> simp [h, Point.Expects]

lemma derivation_iff :
    Point.graph.Expects items graphs ↔ (items = [] ∧ graphs = []) ∨ Kind false items graphs ∨
      ∃ (strict : KeywordItem .strict) (rest : List Lexeme), items = strict.val :: rest ∧
        Kind true rest graphs := by
  constructor
  · rintro ⟨d, rfl, rfl⟩
    rcases d with _ | ⟨⟨strict, kind, keyword, name, body⟩, d⟩
    · exact Or.inl ⟨rfl, rfl⟩
    · cases strict with
      | none =>
        refine Or.inr (Or.inl ⟨kind, keyword, _, rfl, name, _,
          List.append_assoc _ _ _, _, rfl, body, Derivation.items d,
          by simp [Derivation.items, List.flatMap_def], d, rfl, rfl⟩)
      | some strict =>
        refine Or.inr (Or.inr ⟨strict, _, rfl, kind, keyword, _, rfl, name, _,
          List.append_assoc _ _ _, _, rfl, body, Derivation.items d,
          by simp [Derivation.items, List.flatMap_def], d, rfl, rfl⟩)
  · rintro (⟨rfl, rfl⟩ | ⟨kind, keyword, _, rfl, name, _, rfl, _, rfl, body, _, rfl, d, rfl, rfl⟩ |
      ⟨strict, _, rfl, kind, keyword, _, rfl, name, _, rfl, _, rfl, body, _, rfl, d, rfl, rfl⟩)
    · exact ⟨[], rfl, rfl⟩
    · refine ⟨⟨none, kind, keyword, name, body⟩ :: d, ?_, rfl⟩
      simp [Derivation.items, GraphTree.items, optionItems]
    · refine ⟨⟨some strict, kind, keyword, name, body⟩ :: d, ?_, rfl⟩
      simp [Derivation.items, GraphTree.items, optionItems]

lemma graph_cons :
    Point.graph.Expects (l :: items) graphs ↔
      Step.Expects (Point.step .graph l) items graphs := by
  rw [derivation_iff, exists_keyword_cons, kind_cons, Point.step]
  split
  · next h => simp [h, Point.kindStep, Point.Expects]
  · next h => simp [h]

end Expected

/-- Taking an item leads to the point that expects the rest. -/
theorem expects_cons (p : Point) (l : Lexeme) (items : List Lexeme) (graphs : List Graph) :
    p.Expects (l :: items) graphs ↔ Step.Expects (p.step l) items graphs := by
  cases p with
  | graph => exact Expected.graph_cons
  | graphKind => exact Expected.kind_cons
  | graphName strict kind =>
    rw [Point.Expects, Expected.namedOpening_cons, Point.step]
    cases l.name? <;> rfl
  | graphBody header => exact Expected.opening_cons
  | statement blocks => exact Expected.body_cons
  | separator blocks => exact Expected.separator_cons
  | subgraphEnd blocks =>
    refine Expected.separator_cons.trans ?_
    cases l with
    | edgeOp op => simp [Point.step, Point.separatorStep, Point.statementStep]
    | _ => rfl
  | subgraphName blocks =>
    rw [Point.Expects, Expected.namedOpening_cons, Point.step]
    cases l.name? <;> rfl
  | subgraphBody blocks name => exact Expected.opening_cons
  | leadingName blocks name => exact Expected.leadingName_cons
  | assignment blocks key =>
    refine (exists_id_cons (P := fun v rest =>
      Expected.Separator (blocks.add (.attributes .graph [⟨key, v⟩])) rest graphs)).trans ?_
    rw [Point.step]
    cases l.id? <;> simp [Point.Expects]
  | endpoint blocks names => exact Expected.endpoint_cons
  | chainName blocks names => exact Expected.chain_cons
  | lists blocks head attributes => exact Expected.lists_cons
  | attributeKey blocks head attributes => exact Expected.keys_cons
  | attributeEquals blocks head attributes key =>
    refine exists_mark_cons.trans ?_
    rw [Point.step]
    split <;> simp_all [Point.Expects]
  | attributeValue blocks head attributes key =>
    refine (exists_id_cons (P := fun v rest =>
      Expected.AttributeEnd blocks head (attributes ++ [⟨key, v⟩]) rest graphs)).trans ?_
    rw [Point.step]
    cases l.id? <;> simp [Point.Expects]
  | attributeEnd blocks head attributes => exact Expected.attributeEnd_cons

/-- Between graphs, and only there, nothing has to follow. -/
lemma expects_nil (p : Point) (graphs : List Graph) :
    p.Expects [] graphs ↔ p.missing? = none ∧ graphs = [] := by
  have hbody (blocks : Blocks) : ¬Expected.Body blocks [] graphs := by
    simp [Expected.Body]
  have hopening (opened : Blocks) : ¬Expected.Opening opened [] graphs := by
    simp [Expected.Opening]
  have hseparator (blocks : Blocks) : ¬Expected.Separator blocks [] graphs := by
    simp [Expected.separator_iff, hbody]
  have hlists (blocks : Blocks) (head : Head) (attributes : List Attribute) :
      ¬Expected.Lists blocks head attributes [] graphs := by
    simp [Expected.lists_iff, hseparator]
  have hkeys (blocks : Blocks) (head : Head) (attributes : List Attribute) :
      ¬Expected.Keys blocks head attributes [] graphs := by
    simp [Expected.keys_iff]
  cases p with
  | graph => simp [Expected.derivation_iff, Expected.Kind, Point.missing?]
  | graphKind => simp [Point.Expects, Expected.Kind, Point.missing?]
  | graphName strict kind =>
    simp [Point.Expects, Expected.namedOpening_iff, hopening, Point.missing?]
  | graphBody header => simp [Point.Expects, hopening, Point.missing?]
  | statement blocks => simp [Point.Expects, hbody, Point.missing?]
  | separator blocks => simp [Point.Expects, hseparator, Point.missing?]
  | subgraphEnd blocks => simp [Point.Expects, hseparator, Point.missing?]
  | subgraphName blocks =>
    simp [Point.Expects, Expected.namedOpening_iff, hopening, Point.missing?]
  | subgraphBody blocks name => simp [Point.Expects, hopening, Point.missing?]
  | leadingName blocks name =>
    simp [Point.Expects, Expected.LeadingName, hlists, Point.missing?]
  | assignment blocks key => simp [Point.Expects, Expected.Assignment, Point.missing?]
  | endpoint blocks names => simp [Point.Expects, Expected.Endpoint, Point.missing?]
  | chainName blocks names => simp [Point.Expects, Expected.chain_iff, hlists, Point.missing?]
  | lists blocks head attributes => simp [Point.Expects, hlists, Point.missing?]
  | attributeKey blocks head attributes => simp [Point.Expects, hkeys, Point.missing?]
  | attributeEquals blocks head attributes key =>
    simp [Point.Expects, Expected.AttributeEquals, Point.missing?]
  | attributeValue blocks head attributes key =>
    simp [Point.Expects, Expected.AttributeValue, Point.missing?]
  | attributeEnd blocks head attributes =>
    simp [Point.Expects, Expected.attributeEnd_iff, hkeys, Point.missing?]

/-- What is read from a point is what the grammar lets follow there. -/
theorem read?_eq_some_iff (p : Point) (items : List Lexeme) (graphs : List Graph) :
    read? p items = some graphs ↔ p.Expects items graphs := by
  induction items generalizing p graphs with
  | nil =>
    rw [expects_nil, read?]
    split <;> simp_all [eq_comm]
  | cons l rest ih =>
    rw [expects_cons, read?]
    cases p.step l with
    | error f => simp [Step.Expects]
    | ok taken =>
      obtain ⟨next, completed⟩ := taken
      cases completed with
      | none => exact ih next graphs
      | some g =>
        simp only [Step.Expects, Option.map_eq_some_iff, ih]
        constructor
        · rintro ⟨more, hmore, rfl⟩
          exact ⟨more, rfl, hmore⟩
        · rintro ⟨more, rfl, hmore⟩
          exact ⟨more, hmore, rfl⟩

end DotBinding.Dot

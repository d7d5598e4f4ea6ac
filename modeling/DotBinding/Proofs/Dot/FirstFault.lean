import DotBinding.Proofs.Dot.Reading

/-!
# The first wrong token

At every point of reading something can follow that ends the description: the value that is asked
for, and then what closes the open blocks one after the other. So whatever was read without a fault
is the beginning of a description. A fault stops the reading for good, and so it is at the first
token that no description has in its place, or at the end of a text that is only the beginning of a
description.
-/

namespace DotBinding.Dot

open Grammar

/-! ## Every point can be completed -/

lemma Blocks.exists_closed (blocks : Blocks) (more : List Statement) :
    ∃ items graphs, blocks.Closed more items graphs := by
  induction blocks generalizing more with
  | graph header statements => exact ⟨_, _, [], rfl, rfl⟩
  | subgraph name statements outer ih =>
    obtain ⟨rest, graphs, hclosed⟩ := ih [.subgraph name (statements.reverse ++ more)]
    exact ⟨_, graphs, false, .nil, rest, rfl, hclosed⟩

namespace Expected

variable (blocks : Blocks)

lemma exists_body : ∃ items graphs, Body blocks items graphs := by
  obtain ⟨rest, graphs, hclosed⟩ := blocks.exists_closed []
  exact ⟨_, graphs, .nil, rest, rfl, hclosed⟩

lemma exists_separator : ∃ items graphs, Separator blocks items graphs := by
  obtain ⟨items, graphs, hbody⟩ := exists_body blocks
  exact ⟨items, graphs, separator_iff.2 (Or.inl hbody)⟩

lemma exists_opening : ∃ items graphs, Opening blocks items graphs := by
  obtain ⟨rest, graphs, hbody⟩ := exists_body blocks
  exact ⟨_, graphs, rest, rfl, hbody⟩

lemma exists_namedOpening (opened : String → Blocks) :
    ∃ items graphs, NamedOpening opened items graphs := by
  obtain ⟨items, graphs, hopening⟩ := exists_opening (opened "")
  exact ⟨items, graphs, namedOpening_iff.2 (Or.inl hopening)⟩

lemma exists_kind (strict : Bool) : ∃ items graphs, Kind strict items graphs := by
  obtain ⟨rest, graphs, hopening⟩ :=
    exists_namedOpening fun name => .graph ⟨strict, .graph, name⟩ []
  exact ⟨_, graphs, .graph, ⟨.word "graph", rfl⟩, rest, rfl, hopening⟩

variable (head : Head) (attributes : List Attribute)

lemma exists_lists : ∃ items graphs, Lists blocks head attributes items graphs := by
  obtain ⟨items, graphs, hseparator⟩ :=
    exists_separator (blocks.add (head.statement attributes))
  exact ⟨items, graphs, lists_iff.2 (Or.inl hseparator)⟩

lemma exists_keys : ∃ items graphs, Keys blocks head attributes items graphs := by
  obtain ⟨rest, graphs, hlists⟩ := exists_lists blocks head attributes
  exact ⟨_, graphs, keys_iff.2 (Or.inl ⟨rest, rfl, hlists⟩)⟩

lemma exists_attributeEnd : ∃ items graphs, AttributeEnd blocks head attributes items graphs := by
  obtain ⟨items, graphs, hkeys⟩ := exists_keys blocks head attributes
  exact ⟨items, graphs, attributeEnd_iff.2 (Or.inl hkeys)⟩

/-- An identifier that may stand wherever one is asked for. -/
def anyId : EndItem :=
  ⟨.quoted "", rfl, by simp [Lexeme.keyword?]⟩

lemma exists_attributeValue (key : String) :
    ∃ items graphs, AttributeValue blocks head attributes key items graphs := by
  obtain ⟨rest, graphs, hend⟩ := exists_attributeEnd blocks head (attributes ++ [⟨key, ""⟩])
  exact ⟨_, graphs, ⟨anyId.val, rfl⟩, rest, rfl, hend⟩

lemma exists_chain (names : List String) : ∃ items graphs, Chain blocks names items graphs := by
  obtain ⟨items, graphs, hlists⟩ := exists_lists blocks (.edge names) []
  exact ⟨items, graphs, chain_iff.2 (Or.inl hlists)⟩

end Expected

open Expected in
/-- Whatever the point, something can follow. -/
lemma Point.exists_expects (p : Point) : ∃ items graphs, p.Expects items graphs := by
  cases p with
  | graph => exact ⟨[], [], [], rfl, rfl⟩
  | graphKind => exact exists_kind true
  | graphName strict kind => exact exists_namedOpening fun name => .graph ⟨strict, kind, name⟩ []
  | graphBody header => exact exists_opening _
  | statement blocks => exact exists_body blocks
  | separator blocks => exact exists_separator blocks
  | subgraphEnd blocks => exact exists_separator blocks
  | subgraphName blocks => exact exists_namedOpening fun name => .subgraph name [] blocks
  | subgraphBody blocks name => exact exists_opening _
  | leadingName blocks name =>
    obtain ⟨items, graphs, hlists⟩ := exists_lists blocks (.node name) []
    exact ⟨items, graphs, Or.inr (Or.inr hlists)⟩
  | assignment blocks key =>
    obtain ⟨rest, graphs, hseparator⟩ :=
      exists_separator (blocks.add (.attributes .graph [⟨key, ""⟩]))
    exact ⟨_, graphs, ⟨anyId.val, rfl⟩, rest, rfl, hseparator⟩
  | endpoint blocks names =>
    obtain ⟨rest, graphs, hchain⟩ := exists_chain blocks (names ++ [""])
    exact ⟨_, graphs, anyId, rest, rfl, hchain⟩
  | chainName blocks names => exact exists_chain blocks names
  | lists blocks head attributes => exact exists_lists blocks head attributes
  | attributeKey blocks head attributes => exact exists_keys blocks head attributes
  | attributeEquals blocks head attributes key =>
    obtain ⟨rest, graphs, hvalue⟩ := exists_attributeValue blocks head attributes key
    exact ⟨_, graphs, rest, rfl, hvalue⟩
  | attributeValue blocks head attributes key =>
    exact exists_attributeValue blocks head attributes key
  | attributeEnd blocks head attributes => exact exists_attributeEnd blocks head attributes

/-! ## Where a fault is -/

namespace Point

/-- Whether reading from a point comes to the end of these tokens without a fault. -/
def Accepts (p : Point) (tokens : List Token) : Prop :=
  ∃ stop graphs, readFrom stop p tokens = .ok graphs

/-- Whether what is accepted from a point can begin with these tokens. -/
def Admits (p : Point) (tokens : List Token) : Prop :=
  ∃ more, p.Accepts (tokens ++ more)

variable {p next : Point} {t : Token} {completed : Option Graph}

lemma readFrom_cons (h : p.step t.lexeme = .ok (next, completed)) (stop : Position)
    (rest : List Token) :
    readFrom stop p (t :: rest) = (readFrom stop next rest).map (completed.toList ++ ·) := by
  rw [readFrom, h]
  cases completed with
  | none =>
    change readFrom stop next rest = _
    cases readFrom stop next rest <;> rfl
  | some g => rfl

lemma not_accepts_nil {f : Fault} (h : p.missing? = some f) : ¬p.Accepts [] := by
  rintro ⟨stop, graphs, hread⟩
  rw [readFrom, h] at hread
  cases hread

lemma not_accepts_cons {f : Fault} (h : p.step t.lexeme = .error f) (rest : List Token) :
    ¬p.Accepts (t :: rest) := by
  rintro ⟨stop, graphs, hread⟩
  rw [readFrom, h] at hread
  cases hread

lemma accepts_cons (h : p.step t.lexeme = .ok (next, completed)) (rest : List Token) :
    p.Accepts (t :: rest) ↔ next.Accepts rest := by
  unfold Accepts
  simp only [readFrom_cons h]
  constructor
  · rintro ⟨stop, graphs, hread⟩
    cases hnext : readFrom stop next rest with
    | ok more => exact ⟨stop, more, hnext⟩
    | error e =>
      rw [hnext] at hread
      cases hread
  · rintro ⟨stop, more, hnext⟩
    exact ⟨stop, completed.toList ++ more, by rw [hnext]; rfl⟩

lemma admits_cons (h : p.step t.lexeme = .ok (next, completed)) (rest : List Token) :
    p.Admits (t :: rest) ↔ next.Admits rest :=
  exists_congr fun _ => accepts_cons h _

/-- Nothing read yet can become a description from every point. -/
lemma admits_nil (p : Point) : p.Admits [] := by
  obtain ⟨items, graphs, hexpects⟩ := p.exists_expects
  refine ⟨items.map fun l => ⟨l, .start⟩, .start, graphs, ?_⟩
  rw [List.nil_append, readFrom_eq_ok_iff, read?_eq_some_iff, List.map_map]
  simpa [Function.comp_def] using hexpects

end Point

/-- Reading from any point stops at the first token that nothing accepted from there has in its
place, or at the end of tokens with which nothing accepted ends. -/
theorem readFrom_eq_error {stop : Position} {p : Point} {tokens : List Token} {e : ParseError}
    (h : readFrom stop p tokens = .error e) :
    (∃ before t after, tokens = before ++ t :: after ∧ e.position = t.position ∧
      p.Admits before ∧ ¬p.Admits (before ++ [t])) ∨
    (e.position = stop ∧ p.Admits tokens ∧ ¬p.Accepts tokens) := by
  induction tokens generalizing p with
  | nil =>
    right
    cases hmissing : p.missing? with
    | none =>
      rw [readFrom, hmissing] at h
      cases h
    | some f =>
      rw [readFrom, hmissing] at h
      obtain rfl := Except.error.inj h
      exact ⟨rfl, p.admits_nil, Point.not_accepts_nil hmissing⟩
  | cons t rest ih =>
    cases hstep : p.step t.lexeme with
    | error f =>
      rw [readFrom, hstep] at h
      obtain rfl := Except.error.inj h
      refine Or.inl ⟨[], t, rest, rfl, rfl, p.admits_nil, ?_⟩
      rintro ⟨more, haccepts⟩
      exact Point.not_accepts_cons hstep more haccepts
    | ok taken =>
      obtain ⟨next, completed⟩ := taken
      have hnext : readFrom stop next rest = .error e := by
        rw [Point.readFrom_cons hstep] at h
        cases hrest : readFrom stop next rest with
        | ok more =>
          rw [hrest] at h
          cases h
        | error e' =>
          rw [hrest] at h
          exact h
      -- a step without a fault changes neither what is accepted behind it nor what can begin there
      rcases ih hnext with ⟨before, wrong, after, rfl, hat, hbefore, hwrong⟩ | ⟨hat, hall, hno⟩
      · refine Or.inl ⟨t :: before, wrong, after, rfl, hat, ?_, ?_⟩
        · exact (Point.admits_cons hstep before).2 hbefore
        · exact fun hadmits => hwrong ((Point.admits_cons hstep _).1 hadmits)
      · refine Or.inr ⟨hat, (Point.admits_cons hstep rest).2 hall, ?_⟩
        exact fun haccepts => hno ((Point.accepts_cons hstep rest).1 haccepts)

/-- A fault of a text that splits into tokens is at the first wrong one: what stands in front of it
is the beginning of some description, and with it that is so no more. Or it is at the end of a text
whose tokens are the beginning of a description and no description. -/
theorem parse_error_at_first_wrong_token {source : String} {tokens : Tokens} {e : ParseError}
    (hscan : scan source = .ok tokens) (h : parse source = .error e) :
    (∃ before t after, tokens.items = before ++ t :: after ∧ e.position = t.position ∧
      Point.graph.Admits before ∧ ¬Point.graph.Admits (before ++ [t])) ∨
    (e.position = tokens.stop ∧ Point.graph.Admits tokens.items ∧
      ¬Point.graph.Accepts tokens.items) := by
  rw [parse, hscan] at h
  exact readFrom_eq_error h

/-- A block inside a block, with an attribute that has no value. -/
def valueless : String :=
  "graph \x7b \x7b\n  a [k=] \x7d \x7d"

def valuelessTokens : Tokens :=
  ⟨[⟨.word "graph", ⟨1, 1⟩⟩, ⟨.mark .openBrace, ⟨1, 7⟩⟩, ⟨.mark .openBrace, ⟨1, 9⟩⟩,
    ⟨.word "a", ⟨2, 3⟩⟩, ⟨.mark .openBracket, ⟨2, 5⟩⟩, ⟨.word "k", ⟨2, 6⟩⟩,
    ⟨.mark .equals, ⟨2, 7⟩⟩, ⟨.mark .closeBracket, ⟨2, 8⟩⟩, ⟨.mark .closeBrace, ⟨2, 10⟩⟩,
    ⟨.mark .closeBrace, ⟨2, 12⟩⟩], ⟨2, 13⟩⟩

/-- The bracket in the place of the value is the first wrong token. -/
theorem parse_valueless :
    scan valueless = .ok valuelessTokens ∧
      parse valueless = .error ⟨.expectedId (some (.mark .closeBracket)), ⟨2, 8⟩⟩ ∧
      ∃ before t after, valuelessTokens.items = before ++ t :: after ∧ t.position = ⟨2, 8⟩ ∧
        Point.graph.Admits before ∧ ¬Point.graph.Admits (before ++ [t]) := by
  have hscan : scan valueless = .ok valuelessTokens := rfl
  have hparse : parse valueless =
      .error ⟨.expectedId (some (.mark .closeBracket)), ⟨2, 8⟩⟩ := by
    rw [parse, hscan]
    rfl
  refine ⟨hscan, hparse, ?_⟩
  rcases parse_error_at_first_wrong_token hscan hparse with hwrong | ⟨hstop, -⟩
  · obtain ⟨before, t, after, hitems, hat, hbefore, hwrong⟩ := hwrong
    exact ⟨before, t, after, hitems, hat.symm, hbefore, hwrong⟩
  · exact absurd hstop (by decide)

end DotBinding.Dot

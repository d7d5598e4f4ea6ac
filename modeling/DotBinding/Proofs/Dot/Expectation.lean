import DotBinding.Proofs.Dot.Grammar

/-!
# What the grammar expects

`Point.Expects` says, in terms of the grammar alone, which items have to follow at a point of
reading, and which graphs they give. Each part of it is then taken apart by what it begins with.
-/

namespace DotBinding.Dot

open Grammar

namespace Blocks

/-- What may stand behind the closing brace of the innermost block, when some more statements stood
in it: further graphs, or the rest of the block around it. -/
def Closed : Blocks → List Statement → List Lexeme → List Graph → Prop
  | graph header statements, more, items, graphs =>
    ∃ d : Derivation, items = d.items ∧
      graphs = ⟨header.kind, header.name, header.strict, statements.reverse ++ more⟩ :: d.graphs
  | subgraph name statements outer, more, items, graphs =>
    ∃ (semicolon : Bool) (body : BodyTree) (rest : List Lexeme),
      items = semicolonItems semicolon ++ (body.items ++ .mark .closeBrace :: rest) ∧
        outer.Closed (.subgraph name (statements.reverse ++ more) :: body.statements) rest graphs

lemma closed_add (blocks : Blocks) (s : Statement) (more : List Statement) :
    (blocks.add s).Closed more = blocks.Closed (s :: more) := by
  cases blocks <;> simp [add, Closed]

end Blocks

namespace Expected

/-- The rest of a block. -/
def Body (blocks : Blocks) (items : List Lexeme) (graphs : List Graph) : Prop :=
  ∃ (body : BodyTree) (rest : List Lexeme),
    items = body.items ++ .mark .closeBrace :: rest ∧ blocks.Closed body.statements rest graphs

/-- The rest of a block behind one of its statements. -/
def Separator (blocks : Blocks) (items : List Lexeme) (graphs : List Graph) : Prop :=
  ∃ (semicolon : Bool) (rest : List Lexeme),
    items = semicolonItems semicolon ++ rest ∧ Body blocks rest graphs

/-- A block with its braces, and what follows it. -/
def Opening (opened : Blocks) (items : List Lexeme) (graphs : List Graph) : Prop :=
  ∃ rest, items = .mark .openBrace :: rest ∧ Body opened rest graphs

/-- A block with an optional name in front of it. -/
def NamedOpening (opened : String → Blocks) (items : List Lexeme) (graphs : List Graph) : Prop :=
  ∃ (name : Option NameItem) (rest : List Lexeme),
    items = nameItems name ++ rest ∧ Opening (opened (nameText name)) rest graphs

def Kind (strict : Bool) (items : List Lexeme) (graphs : List Graph) : Prop :=
  ∃ (kind : GraphKind) (keyword : KeywordItem kind.keyword) (rest : List Lexeme),
    items = keyword.val :: rest ∧
      NamedOpening (fun name => .graph ⟨strict, kind, name⟩ []) rest graphs

/-- The attribute lists of a statement, and what follows it. -/
def Lists (blocks : Blocks) (head : Head) (attributes : List Attribute) (items : List Lexeme)
    (graphs : List Graph) : Prop :=
  ∃ (lists : ListsTree) (rest : List Lexeme), items = lists.items ++ rest ∧
    Separator (blocks.add (head.statement (attributes ++ lists.attributes))) rest graphs

/-- The rest of an attribute list from a key on. -/
def Keys (blocks : Blocks) (head : Head) (attributes : List Attribute) (items : List Lexeme)
    (graphs : List Graph) : Prop :=
  ∃ (list : ListTree) (rest : List Lexeme),
    items = list.flatMap AttributeTree.items ++ .mark .closeBracket :: rest ∧
      Lists blocks head (attributes ++ list.map AttributeTree.toAttribute) rest graphs

def AttributeEnd (blocks : Blocks) (head : Head) (attributes : List Attribute)
    (items : List Lexeme) (graphs : List Graph) : Prop :=
  ∃ (separator : Option Grammar.Separator) (rest : List Lexeme),
    items = optionItems (fun s => [.mark s.mark]) separator ++ rest ∧
      Keys blocks head attributes rest graphs

def AttributeValue (blocks : Blocks) (head : Head) (attributes : List Attribute) (key : String)
    (items : List Lexeme) (graphs : List Graph) : Prop :=
  ∃ (value : IdItem) (rest : List Lexeme), items = value.val :: rest ∧
    AttributeEnd blocks head (attributes ++ [⟨key, value.text⟩]) rest graphs

def AttributeEquals (blocks : Blocks) (head : Head) (attributes : List Attribute) (key : String)
    (items : List Lexeme) (graphs : List Graph) : Prop :=
  ∃ rest, items = .mark .equals :: rest ∧ AttributeValue blocks head attributes key rest graphs

/-- The rest of an edge behind a name of its chain. -/
def Chain (blocks : Blocks) (names : List String) (items : List Lexeme) (graphs : List Graph) :
    Prop :=
  ∃ (links : List LinkTree) (rest : List Lexeme), items = links.flatMap LinkTree.items ++ rest ∧
    Lists blocks (.edge (names ++ links.map (·.name.text))) [] rest graphs

def Endpoint (blocks : Blocks) (names : List String) (items : List Lexeme)
    (graphs : List Graph) : Prop :=
  ∃ (name : EndItem) (rest : List Lexeme), items = name.val :: rest ∧
    Chain blocks (names ++ [name.text]) rest graphs

def Assignment (blocks : Blocks) (key : String) (items : List Lexeme) (graphs : List Graph) :
    Prop :=
  ∃ (value : IdItem) (rest : List Lexeme), items = value.val :: rest ∧
    Separator (blocks.add (.attributes .graph [⟨key, value.text⟩])) rest graphs

/-- The rest of a statement that begins with a name. -/
def LeadingName (blocks : Blocks) (name : String) (items : List Lexeme) (graphs : List Graph) :
    Prop :=
  (∃ rest, items = .mark .equals :: rest ∧ Assignment blocks name rest graphs) ∨
  (∃ op rest, items = .edgeOp op :: rest ∧ Endpoint blocks [name] rest graphs) ∨
  Lists blocks (.node name) [] items graphs

end Expected

/-- What the grammar lets follow at a point, and the graphs that it gives. -/
def Point.Expects : Point → List Lexeme → List Graph → Prop
  | graph => fun items graphs => ∃ d : Derivation, items = d.items ∧ graphs = d.graphs
  | graphKind => Expected.Kind true
  | graphName strict kind => Expected.NamedOpening fun name => .graph ⟨strict, kind, name⟩ []
  | graphBody header => Expected.Opening (.graph header [])
  | statement blocks => Expected.Body blocks
  | separator blocks => Expected.Separator blocks
  | subgraphEnd blocks => Expected.Separator blocks
  | subgraphName blocks => Expected.NamedOpening fun name => .subgraph name [] blocks
  | subgraphBody blocks name => Expected.Opening (.subgraph name [] blocks)
  | leadingName blocks name => Expected.LeadingName blocks name
  | assignment blocks key => Expected.Assignment blocks key
  | endpoint blocks names => Expected.Endpoint blocks names
  | chainName blocks names => Expected.Chain blocks names
  | lists blocks head attributes => Expected.Lists blocks head attributes
  | attributeKey blocks head attributes => Expected.Keys blocks head attributes
  | attributeEquals blocks head attributes key =>
    Expected.AttributeEquals blocks head attributes key
  | attributeValue blocks head attributes key =>
    Expected.AttributeValue blocks head attributes key
  | attributeEnd blocks head attributes => Expected.AttributeEnd blocks head attributes

/-- What has to follow when an item was taken. -/
def Step.Expects : Step → List Lexeme → List Graph → Prop
  | .error _, _, _ => False
  | .ok (next, none), items, graphs => next.Expects items graphs
  | .ok (next, some g), items, graphs => ∃ more, graphs = g :: more ∧ next.Expects items more

/-! ## First items -/

section FirstItems

variable {l : Lexeme} {items : List Lexeme}

lemma exists_mark_cons {m : Mark} {P : List Lexeme → Prop} :
    (∃ rest, l :: items = .mark m :: rest ∧ P rest) ↔ l = .mark m ∧ P items := by
  constructor
  · rintro ⟨rest, h, hP⟩
    obtain ⟨rfl, rfl⟩ := List.cons.inj h
    exact ⟨rfl, hP⟩
  · rintro ⟨rfl, hP⟩
    exact ⟨items, rfl, hP⟩

lemma exists_edgeOp_cons {P : List Lexeme → Prop} :
    (∃ op rest, l :: items = .edgeOp op :: rest ∧ P rest) ↔ (∃ op, l = .edgeOp op) ∧ P items := by
  constructor
  · rintro ⟨op, rest, h, hP⟩
    obtain ⟨rfl, rfl⟩ := List.cons.inj h
    exact ⟨⟨op, rfl⟩, hP⟩
  · rintro ⟨⟨op, rfl⟩, hP⟩
    exact ⟨op, items, rfl, hP⟩

lemma exists_keyword_cons {k : Keyword} {P : List Lexeme → Prop} :
    (∃ (keyword : KeywordItem k) (rest : List Lexeme), l :: items = keyword.val :: rest ∧ P rest) ↔
      l.keyword? = some k ∧ P items := by
  constructor
  · rintro ⟨keyword, rest, h, hP⟩
    obtain ⟨rfl, rfl⟩ := List.cons.inj h
    exact ⟨keyword.property, hP⟩
  · rintro ⟨hk, hP⟩
    exact ⟨⟨l, hk⟩, items, rfl, hP⟩

lemma exists_id_cons {P : String → List Lexeme → Prop} :
    (∃ (i : IdItem) (rest : List Lexeme), l :: items = i.val :: rest ∧ P i.text rest) ↔
      ∃ n, l.id? = some n ∧ P n items := by
  constructor
  · rintro ⟨i, rest, h, hP⟩
    obtain ⟨rfl, rfl⟩ := List.cons.inj h
    exact ⟨i.text, (Option.some_get _).symm, hP⟩
  · rintro ⟨n, hn, hP⟩
    refine ⟨⟨l, by rw [hn]; rfl⟩, items, rfl, ?_⟩
    simpa [IdItem.text, hn] using hP

lemma exists_name_cons {P : String → List Lexeme → Prop} :
    (∃ (i : NameItem) (rest : List Lexeme), l :: items = i.val :: rest ∧ P i.text rest) ↔
      ∃ n, l.name? = some n ∧ P n items := by
  constructor
  · rintro ⟨i, rest, h, hP⟩
    obtain ⟨rfl, rfl⟩ := List.cons.inj h
    exact ⟨i.text, (Option.some_get _).symm, hP⟩
  · rintro ⟨n, hn, hP⟩
    refine ⟨⟨l, by rw [hn]; rfl⟩, items, rfl, ?_⟩
    simpa [NameItem.text, hn] using hP

lemma exists_end_cons {P : String → List Lexeme → Prop} :
    (∃ (i : EndItem) (rest : List Lexeme), l :: items = i.val :: rest ∧ P i.text rest) ↔
      l.keyword? ≠ some .subgraph ∧ ∃ n, l.id? = some n ∧ P n items := by
  constructor
  · rintro ⟨i, rest, h, hP⟩
    obtain ⟨rfl, rfl⟩ := List.cons.inj h
    exact ⟨i.property.2, i.text, (Option.some_get _).symm, hP⟩
  · rintro ⟨hk, n, hn, hP⟩
    refine ⟨⟨l, by rw [hn]; rfl, hk⟩, items, rfl, ?_⟩
    simpa [EndItem.text, hn] using hP

end FirstItems

namespace Expected

variable {blocks : Blocks} {items : List Lexeme} {graphs : List Graph}

/-! ## One part at a time -/

lemma body_iff :
    Body blocks items graphs ↔
      (∃ rest, items = .mark .closeBrace :: rest ∧ blocks.Closed [] rest graphs) ∨
      ∃ (t : StatementTree) (rest : List Lexeme), items = t.items ++ rest ∧
        Separator (blocks.add t.statement) rest graphs := by
  constructor
  · rintro ⟨body, rest, rfl, hclosed⟩
    cases body with
    | nil => exact Or.inl ⟨rest, rfl, hclosed⟩
    | cons t semicolon more =>
      refine Or.inr
        ⟨t, semicolonItems semicolon ++ (more.items ++ .mark .closeBrace :: rest), ?_, ?_⟩
      · simp [BodyTree.items]
      · refine ⟨semicolon, _, rfl, more, rest, rfl, ?_⟩
        rw [Blocks.closed_add]
        exact hclosed
  · rintro (⟨rest, rfl, hclosed⟩ | ⟨t, rest, rfl, semicolon, _, rfl, more, rest, rfl, hclosed⟩)
    · exact ⟨.nil, rest, rfl, hclosed⟩
    · refine ⟨.cons t semicolon more, rest, by simp [BodyTree.items], ?_⟩
      rw [Blocks.closed_add] at hclosed
      exact hclosed

lemma separator_iff :
    Separator blocks items graphs ↔ Body blocks items graphs ∨
      ∃ rest, items = .mark .semicolon :: rest ∧ Body blocks rest graphs := by
  constructor
  · rintro ⟨semicolon, rest, rfl, hbody⟩
    cases semicolon with
    | false => exact Or.inl hbody
    | true => exact Or.inr ⟨rest, rfl, hbody⟩
  · rintro (hbody | ⟨rest, rfl, hbody⟩)
    · exact ⟨false, items, rfl, hbody⟩
    · exact ⟨true, rest, rfl, hbody⟩

lemma namedOpening_iff {opened : String → Blocks} :
    NamedOpening opened items graphs ↔ Opening (opened "") items graphs ∨
      ∃ (n : NameItem) (rest : List Lexeme), items = n.val :: rest ∧
        Opening (opened n.text) rest graphs := by
  constructor
  · rintro ⟨name, rest, rfl, hopening⟩
    cases name with
    | none => exact Or.inl hopening
    | some n => exact Or.inr ⟨n, rest, rfl, hopening⟩
  · rintro (hopening | ⟨n, rest, rfl, hopening⟩)
    · exact ⟨none, items, rfl, hopening⟩
    · exact ⟨some n, rest, rfl, hopening⟩

variable {head : Head} {attributes : List Attribute}

lemma lists_iff :
    Lists blocks head attributes items graphs ↔
      Separator (blocks.add (head.statement attributes)) items graphs ∨
      ∃ rest, items = .mark .openBracket :: rest ∧ Keys blocks head attributes rest graphs := by
  constructor
  · rintro ⟨lists, rest, rfl, hseparator⟩
    cases lists with
    | nil =>
      rw [ListsTree.attributes, List.flatMap_nil, List.append_nil] at hseparator
      exact Or.inl hseparator
    | cons list lists =>
      refine Or.inr ⟨list.flatMap AttributeTree.items ++ .mark .closeBracket ::
        (ListsTree.items lists ++ rest), by simp [ListsTree.items, ListTree.items], ?_⟩
      refine ⟨list, _, rfl, lists, rest, rfl, ?_⟩
      simpa [ListsTree.attributes] using hseparator
  · rintro (hseparator | ⟨_, rfl, list, _, rfl, lists, rest, rfl, hseparator⟩)
    · refine ⟨[], items, rfl, ?_⟩
      simpa [ListsTree.attributes] using hseparator
    · refine ⟨list :: lists, rest, by simp [ListsTree.items, ListTree.items], ?_⟩
      simpa [ListsTree.attributes] using hseparator

lemma attributeEnd_iff :
    AttributeEnd blocks head attributes items graphs ↔
      Keys blocks head attributes items graphs ∨
      ∃ (s : Grammar.Separator) (rest : List Lexeme), items = .mark s.mark :: rest ∧
        Keys blocks head attributes rest graphs := by
  constructor
  · rintro ⟨separator, rest, rfl, hkeys⟩
    cases separator with
    | none => exact Or.inl hkeys
    | some s => exact Or.inr ⟨s, rest, rfl, hkeys⟩
  · rintro (hkeys | ⟨s, rest, rfl, hkeys⟩)
    · exact ⟨none, items, rfl, hkeys⟩
    · exact ⟨some s, rest, rfl, hkeys⟩

lemma keys_iff :
    Keys blocks head attributes items graphs ↔
      (∃ rest, items = .mark .closeBracket :: rest ∧ Lists blocks head attributes rest graphs) ∨
      ∃ (key : IdItem) (rest : List Lexeme), items = key.val :: rest ∧
        AttributeEquals blocks head attributes key.text rest graphs := by
  constructor
  · rintro ⟨list, rest, rfl, hlists⟩
    cases list with
    | nil =>
      rw [List.map_nil, List.append_nil] at hlists
      exact Or.inl ⟨rest, rfl, hlists⟩
    | cons t list =>
      refine Or.inr ⟨t.key, _, rfl, _, rfl, t.value, _, rfl, t.separator, _,
        List.append_assoc _ _ _, list, rest, rfl, ?_⟩
      simpa [AttributeTree.toAttribute] using hlists
  · rintro (⟨rest, rfl, hlists⟩ |
      ⟨key, _, rfl, _, rfl, value, _, rfl, separator, _, rfl, list, rest, rfl, hlists⟩)
    · refine ⟨[], rest, rfl, ?_⟩
      simpa using hlists
    · refine ⟨⟨key, value, separator⟩ :: list, rest, by simp [AttributeTree.items], ?_⟩
      simpa [AttributeTree.toAttribute] using hlists

lemma chain_iff {names : List String} :
    Chain blocks names items graphs ↔ Lists blocks (.edge names) [] items graphs ∨
      ∃ op rest, items = .edgeOp op :: rest ∧ Endpoint blocks names rest graphs := by
  constructor
  · rintro ⟨links, rest, rfl, hlists⟩
    cases links with
    | nil =>
      rw [List.map_nil, List.append_nil] at hlists
      exact Or.inl hlists
    | cons t links =>
      refine Or.inr ⟨t.op, _, rfl, t.name, _, rfl, links, rest, rfl, ?_⟩
      simpa using hlists
  · rintro (hlists | ⟨op, _, rfl, name, _, rfl, links, rest, rfl, hlists⟩)
    · refine ⟨[], items, rfl, ?_⟩
      simpa using hlists
    · refine ⟨⟨op, name⟩ :: links, rest, by simp [LinkTree.items], ?_⟩
      simpa using hlists

/-- A subgraph is added to the block around it once its own block is closed. -/
lemma separator_add_subgraph {name : String} (statements : List Statement)
    {more : List Statement} :
    Separator (blocks.add (.subgraph name (statements.reverse ++ more))) items graphs ↔
      (Blocks.subgraph name statements blocks).Closed more items graphs := by
  simp only [Separator, Body, Blocks.Closed, Blocks.closed_add]
  constructor
  · rintro ⟨semicolon, _, rfl, body, rest, rfl, hclosed⟩
    exact ⟨semicolon, body, rest, rfl, hclosed⟩
  · rintro ⟨semicolon, body, rest, rfl, hclosed⟩
    exact ⟨semicolon, _, rfl, body, rest, rfl, hclosed⟩

/-- A statement by its first item: a target, an opening brace, `subgraph`, or a name. -/
lemma statement_iff :
    (∃ (t : StatementTree) (rest : List Lexeme), items = t.items ++ rest ∧
      Separator (blocks.add t.statement) rest graphs) ↔
    (∃ (target : Target) (keyword : KeywordItem target.keyword) (rest : List Lexeme),
      items = keyword.val :: rest ∧ Lists blocks (.attributes target) [] rest graphs) ∨
    Opening (.subgraph "" [] blocks) items graphs ∨
    (∃ (keyword : KeywordItem .subgraph) (rest : List Lexeme), items = keyword.val :: rest ∧
      NamedOpening (fun name => .subgraph name [] blocks) rest graphs) ∨
    ∃ (n : NameItem) (rest : List Lexeme), items = n.val :: rest ∧
      LeadingName blocks n.text rest graphs := by
  constructor
  · rintro ⟨t, rest, rfl, hrest⟩
    cases t with
    | attributes target keyword lists =>
      exact Or.inl ⟨target, keyword, _, rfl, lists, rest, rfl, hrest⟩
    | subgraph opening body =>
      have hclosed := (separator_add_subgraph []).1 hrest
      refine Or.inr ?_
      rcases opening with _ | ⟨keyword, name⟩
      · exact Or.inl ⟨_, rfl, body, rest, by simp, hclosed⟩
      · refine Or.inr (Or.inl ⟨keyword, nameItems name ++ .mark .openBrace ::
          (body.items ++ .mark .closeBrace :: rest), ?_, name, _, rfl, _, rfl, body, rest, rfl,
          hclosed⟩)
        simp [StatementTree.items, OpeningTree.items, optionItems]
    | assignment key value =>
      exact Or.inr (Or.inr (Or.inr ⟨key, _, rfl, Or.inl ⟨_, rfl, value, rest, rfl, hrest⟩⟩))
    | edge first link links lists =>
      refine Or.inr (Or.inr (Or.inr ⟨first, _, rfl, Or.inr (Or.inl
        ⟨link.op, _, rfl, link.name, _, rfl, links, lists.items ++ rest, by simp, ?_⟩)⟩))
      exact ⟨lists, rest, rfl, hrest⟩
    | node name lists =>
      exact Or.inr (Or.inr (Or.inr ⟨name, _, rfl, Or.inr (Or.inr ⟨lists, rest, rfl, hrest⟩)⟩))
  · rintro (⟨target, keyword, _, rfl, lists, rest, rfl, hrest⟩ |
      ⟨_, rfl, body, rest, rfl, hclosed⟩ |
      ⟨keyword, _, rfl, name, _, rfl, _, rfl, body, rest, rfl, hclosed⟩ |
      ⟨n, _, rfl, hleading⟩)
    · exact ⟨.attributes target keyword lists, rest, rfl, hrest⟩
    · refine ⟨.subgraph none body, rest,
        by simp [StatementTree.items, OpeningTree.items, optionItems], ?_⟩
      exact (separator_add_subgraph []).2 hclosed
    · refine ⟨.subgraph (some (keyword, name)) body, rest,
        by simp [StatementTree.items, OpeningTree.items, optionItems], ?_⟩
      exact (separator_add_subgraph []).2 hclosed
    · rcases hleading with ⟨_, rfl, value, rest, rfl, hrest⟩ |
        ⟨op, _, rfl, name, _, rfl, links, _, rfl, lists, rest, rfl, hrest⟩ |
        ⟨lists, rest, rfl, hrest⟩
      · exact ⟨.assignment n value, rest, rfl, hrest⟩
      · refine ⟨.edge n ⟨op, name⟩ links lists, rest, ?_, hrest⟩
        simp [StatementTree.items, LinkTree.items]
      · exact ⟨.node n lists, rest, rfl, hrest⟩

end Expected

end DotBinding.Dot

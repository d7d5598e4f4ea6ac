import DotBinding.Proofs.Dot.AttributeReading
import DotBinding.Proofs.Dot.Splitting
import DotBinding.Proofs.Dot.Unambiguity

/-!
# Graphs as text

Graphs written out, with every identifier between quotes and every keyword and mark plain. What is
written splits into the items of a derivation that denotes the graphs, so it is read back as them,
whatever the identifiers are. Only an edge of fewer than two names is lost: it cannot be written.
-/

namespace DotBinding.Dot

open Grammar

/-- An item as it is written. Identifiers are always quoted. -/
inductive WrittenItem where
  | keyword (k : Keyword)
  | id (s : String)
  | edgeOp (op : EdgeOp)
  | mark (m : Mark)

namespace WrittenItem

def text : WrittenItem → String
  | keyword k => k.text
  | id s => enclose s
  | edgeOp op => op.text
  | mark m => m.text

def lexeme : WrittenItem → Lexeme
  | keyword k => .word k.text
  | id s => .quoted (String.ofList (escape s.toList))
  | edgeOp op => .edgeOp op
  | mark m => .mark m

end WrittenItem

/-! ## Writing -/

def Attribute.written (a : Attribute) : List WrittenItem :=
  [.id a.key, .mark .equals, .id a.value, .mark .comma]

/-- An attribute list, which is left out if it is empty. -/
def listWritten : List Attribute → List WrittenItem
  | [] => []
  | attributes =>
    .mark .openBracket :: (attributes.flatMap Attribute.written ++ [.mark .closeBracket])

def chainWritten (op : EdgeOp) : List String → List WrittenItem
  | [] => []
  | first :: rest => .id first :: rest.flatMap fun n => [.edgeOp op, .id n]

mutual

def Statement.written (op : EdgeOp) : Statement → List WrittenItem
  | .node d => .id d.name :: listWritten d.attributes
  | .edge e => chainWritten op e.chain ++ listWritten e.attributes
  | .attributes target attributes => .keyword target.keyword :: listWritten attributes
  | .subgraph name statements =>
    .keyword .subgraph :: .id name :: .mark .openBrace ::
      (bodyWritten op statements ++ [.mark .closeBrace])

/-- Statements, each with a semicolon behind it. -/
def bodyWritten (op : EdgeOp) : List Statement → List WrittenItem
  | [] => []
  | s :: rest => s.written op ++ .mark .semicolon :: bodyWritten op rest

end

def GraphKind.edgeOp : GraphKind → EdgeOp
  | graph => .line
  | digraph => .arrow

def Graph.written (g : Graph) : List WrittenItem :=
  (if g.strict then [.keyword .strict] else []) ++ .keyword g.kind.keyword :: .id g.name ::
    .mark .openBrace :: (bodyWritten g.kind.edgeOp g.statements ++ [.mark .closeBrace])

/-- Items with a space behind each. -/
def spaced (items : List WrittenItem) : String :=
  String.join (items.map fun w => w.text ++ " ")

def render (graphs : List Graph) : String :=
  spaced (graphs.flatMap Graph.written)

/-! ## Splitting what is written -/

lemma Scans.space_of_scans {rest : List Char} {items : List Lexeme} (h : Scans rest items) :
    Scans (' ' :: rest) items := by
  rw [scans_iff_splits] at h ⊢
  exact (Splits.blank_cons_iff (by decide)).mpr h

lemma WrittenItem.splits (w : WrittenItem) (rest : List Char) :
    Splits (w.text.toList ++ ' ' :: rest) [w.lexeme] (' ' :: rest) := by
  cases w with
  | keyword k =>
    have hword : AttributeText.isWord k.text.toList = true := by cases k <;> decide
    have hsplits : Splits (k.text.toList ++ ' ' :: rest) _ _ :=
      AttributeText.splits_word k.text.toList hword (by decide +kernel)
    rwa [String.ofList_toList] at hsplits
  | id s =>
    rw [text, enclose, String.toList_ofList, List.append_assoc]
    exact Splits.quoted s.toList (' ' :: rest)
  | edgeOp op => exact Splits.edgeOp op (' ' :: rest)
  | mark m =>
    rw [text, Mark.text, String.toList_singleton]
    exact Splits.mark m (' ' :: rest)

lemma scans_spaced (items : List WrittenItem) :
    Scans (spaced items).toList (items.map WrittenItem.lexeme) := by
  induction items with
  | nil => exact Scans.nil
  | cons w rest ih =>
    have hcons : (spaced (w :: rest)).toList = w.text.toList ++ ' ' :: (spaced rest).toList := by
      simp [spaced, String.toList_append]
    rw [hcons]
    exact (w.splits _).scans_append ih.space_of_scans

/-! ## The trees of what is written -/

def keywordItem (k : Keyword) : KeywordItem k :=
  ⟨(WrittenItem.keyword k).lexeme, by cases k <;> rfl⟩

def quotedName (s : String) : NameItem :=
  ⟨(WrittenItem.id s).lexeme, rfl⟩

def quotedId (s : String) : IdItem :=
  ⟨(WrittenItem.id s).lexeme, rfl⟩

def quotedEnd (s : String) : EndItem :=
  ⟨(WrittenItem.id s).lexeme, rfl, by simp [WrittenItem.lexeme, Lexeme.keyword?]⟩

lemma id?_lexeme_id (s : String) : (WrittenItem.id s).lexeme.id? = some s := by
  simp [WrittenItem.lexeme, Lexeme.id?, unescape_escape]

lemma text_quotedId (s : String) : (quotedId s).text = s :=
  Option.get_of_eq_some _ (id?_lexeme_id s)

lemma text_quotedEnd (s : String) : (quotedEnd s).text = s :=
  Option.get_of_eq_some _ (id?_lexeme_id s)

lemma text_quotedName (s : String) : (quotedName s).text = s :=
  Option.get_of_eq_some _ (id?_lexeme_id s)

def attributeTree (a : Attribute) : AttributeTree :=
  ⟨quotedId a.key, quotedId a.value, some .comma⟩

def listsTree : List Attribute → ListsTree
  | [] => []
  | attributes => [attributes.map attributeTree]

lemma items_attributeTree (a : Attribute) :
    (attributeTree a).items = a.written.map WrittenItem.lexeme :=
  rfl

lemma toAttribute_attributeTree (a : Attribute) : (attributeTree a).toAttribute = a := by
  rw [AttributeTree.toAttribute, attributeTree, text_quotedId, text_quotedId]

lemma items_listsTree (attributes : List Attribute) :
    (listsTree attributes).items = (listWritten attributes).map WrittenItem.lexeme := by
  cases attributes with
  | nil => rfl
  | cons a rest =>
    simp [listsTree, listWritten, ListsTree.items, ListTree.items, items_attributeTree,
      List.map_flatMap, List.flatMap_map, WrittenItem.lexeme]

lemma attributes_listsTree (attributes : List Attribute) :
    (listsTree attributes).attributes = attributes := by
  cases attributes with
  | nil => rfl
  | cons a rest =>
    simp [listsTree, ListsTree.attributes, toAttribute_attributeTree, Function.comp_def]

def linkTree (op : EdgeOp) (n : String) : LinkTree :=
  ⟨op, quotedEnd n⟩

lemma items_linkTree (op : EdgeOp) (n : String) :
    (linkTree op n).items = [WrittenItem.edgeOp op, .id n].map WrittenItem.lexeme :=
  rfl

lemma text_linkTree (op : EdgeOp) (n : String) : (linkTree op n).name.text = n :=
  text_quotedEnd n

mutual

lemma Statement.exists_tree (op : EdgeOp) (s : Statement)
    (h : ∀ e ∈ s.edges, 2 ≤ e.chain.length) :
    ∃ t : StatementTree, t.items = (s.written op).map WrittenItem.lexeme ∧ t.statement = s := by
  match s with
  | .node d =>
    refine ⟨.node (quotedName d.name) (listsTree d.attributes), ?_, ?_⟩
    · rw [StatementTree.items, items_listsTree]
      rfl
    · rw [StatementTree.statement, text_quotedName, attributes_listsTree]
  | .edge ⟨[], attributes⟩ | .edge ⟨[_], attributes⟩ =>
    have htwo := h _ List.mem_cons_self
    simp at htwo
  | .edge ⟨first :: second :: rest, attributes⟩ =>
    refine ⟨.edge (quotedName first) (linkTree op second) (rest.map (linkTree op))
      (listsTree attributes), ?_, ?_⟩
    · simp [StatementTree.items, items_listsTree, items_linkTree, Statement.written, chainWritten,
        List.map_flatMap, List.flatMap_map, quotedName, WrittenItem.lexeme]
    · simp [StatementTree.statement, text_quotedName, attributes_listsTree, text_linkTree,
        Function.comp_def]
  | .attributes target attributes =>
    refine ⟨.attributes target (keywordItem target.keyword) (listsTree attributes), ?_, ?_⟩
    · rw [StatementTree.items, items_listsTree]
      rfl
    · rw [StatementTree.statement, attributes_listsTree]
  | .subgraph name statements =>
    obtain ⟨body, hitems, hbody⟩ := exists_bodyTree op statements h
    refine ⟨.subgraph (some (keywordItem .subgraph, some (quotedName name))) body, ?_, ?_⟩
    · simp [StatementTree.items, OpeningTree.items, optionItems, nameItems, hitems,
        Statement.written, keywordItem, quotedName, WrittenItem.lexeme]
    · rw [StatementTree.statement, hbody]
      simp [OpeningTree.name, nameText, text_quotedName]

lemma exists_bodyTree (op : EdgeOp) (statements : List Statement)
    (h : ∀ e ∈ edgesOf statements, 2 ≤ e.chain.length) :
    ∃ b : BodyTree, b.items = (bodyWritten op statements).map WrittenItem.lexeme ∧
      b.statements = statements := by
  match statements with
  | [] => exact ⟨.nil, rfl, rfl⟩
  | s :: rest =>
    obtain ⟨t, ht, hs⟩ := s.exists_tree op fun e he => h e (List.mem_append_left _ he)
    obtain ⟨b, hb, hrest⟩ := exists_bodyTree op rest fun e he => h e (List.mem_append_right _ he)
    refine ⟨.cons t true b, ?_, ?_⟩
    · simp [BodyTree.items, bodyWritten, ht, hb, semicolonItems, WrittenItem.lexeme]
    · rw [BodyTree.statements, hs, hrest]

end

lemma Graph.exists_tree (g : Graph) (h : ∀ e ∈ g.edges, 2 ≤ e.chain.length) :
    ∃ t : GraphTree, t.items = g.written.map WrittenItem.lexeme ∧ t.graph = g := by
  obtain ⟨kind, name, strict, statements⟩ := g
  obtain ⟨body, hitems, hbody⟩ := exists_bodyTree kind.edgeOp statements h
  refine ⟨⟨if strict then some (keywordItem .strict) else none, kind, keywordItem kind.keyword,
    some (quotedName name), body⟩, ?_, ?_⟩
  · cases strict <;>
      simp [GraphTree.items, optionItems, nameItems, hitems, written, keywordItem, quotedName,
        WrittenItem.lexeme]
  · rw [GraphTree.graph, hbody]
    cases strict <;> simp [nameText, text_quotedName]

lemma exists_derivation (graphs : List Graph)
    (h : ∀ g ∈ graphs, ∀ e ∈ g.edges, 2 ≤ e.chain.length) :
    ∃ d : Derivation, d.items = (graphs.flatMap Graph.written).map WrittenItem.lexeme ∧
      d.graphs = graphs := by
  induction graphs with
  | nil => exact ⟨[], rfl, rfl⟩
  | cons g rest ih =>
    obtain ⟨hg, hrest⟩ := List.forall_mem_cons.mp h
    obtain ⟨t, ht, rfl⟩ := g.exists_tree hg
    obtain ⟨d, hd, rfl⟩ := ih hrest
    refine ⟨t :: d, ?_, rfl⟩
    rw [List.flatMap_cons, List.map_append, ← ht, ← hd]
    rfl

/-- Graphs that are written out are read back as they were, whatever texts they hold, if and only
if each of their edges, at whatever depth, joins at least two names. -/
theorem parse_render_iff (graphs : List Graph) :
    parse (render graphs) = .ok graphs ↔ ∀ g ∈ graphs, ∀ e ∈ g.edges, 2 ≤ e.chain.length := by
  constructor
  · intro h g hg e he
    exact two_le_length_of_mem_edges h hg he
  · intro h
    obtain ⟨d, hitems, hgraphs⟩ := exists_derivation graphs h
    have hscans := scans_spaced (graphs.flatMap Graph.written)
    rw [← hitems] at hscans
    rw [render, parse_eq_ok_of_scans hscans, hgraphs]

example : render [⟨.digraph, "", true, [.edge ⟨["a", "b\""], [⟨"k", "\\"⟩]⟩]⟩] =
    "strict digraph \"\" \x7b \"a\" -> \"b\\\"\" [ \"k\" = \"\\\\\" , ] ; \x7d " := by
  decide +kernel

end DotBinding.Dot

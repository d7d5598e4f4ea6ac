import DotBinding.Dot.Parser
import Mathlib.Tactic.Lemma

/-!
# The grammar of graph descriptions

Derivation trees of the grammar, with one type for each rule and one constructor for each of its
alternatives:

* graphs: `graph*`
* graph: `[strict] (graph | digraph) [name] { body }`
* body: `(statement [;])*`
* statement: `(graph | node | edge) lists`, a subgraph, `name = id`, `name (op end)+ lists`, or
  `name lists`
* subgraph: `[subgraph [name]] { body }`
* lists: `list*`
* list: `[ (id = id [, | ;])* ]`

A keyword is a word in upper or lower case. A name is no keyword, an identifier may be one, and the
end of an edge may be any but `subgraph`. The items of a tree are the row of items that it derives,
and its graphs are what it denotes.
-/

namespace DotBinding.Dot

def Target.keyword : Target → Keyword
  | graph => .graph
  | node => .node
  | edge => .edge

def GraphKind.keyword : GraphKind → Keyword
  | graph => .graph
  | digraph => .digraph

namespace Grammar

/-- A word that spells a keyword. -/
abbrev KeywordItem (k : Keyword) :=
  { l : Lexeme // l.keyword? = some k }

abbrev IdItem :=
  { l : Lexeme // l.id?.isSome = true }

abbrev NameItem :=
  { l : Lexeme // l.name?.isSome = true }

/-- An identifier that may stand behind an edge operator. -/
abbrev EndItem :=
  { l : Lexeme // l.id?.isSome = true ∧ l.keyword? ≠ some .subgraph }

def IdItem.text (i : IdItem) : String :=
  i.val.id?.get i.property

def NameItem.text (n : NameItem) : String :=
  n.val.name?.get n.property

def EndItem.text (n : EndItem) : String :=
  n.val.id?.get n.property.1

inductive Separator where
  | comma
  | semicolon

def Separator.mark : Separator → Mark
  | comma => .comma
  | semicolon => .semicolon

def optionItems {α : Type} (items : α → List Lexeme) : Option α → List Lexeme
  | none => []
  | some a => items a

structure AttributeTree where
  key : IdItem
  value : IdItem
  separator : Option Separator

namespace AttributeTree

def items (t : AttributeTree) : List Lexeme :=
  t.key.val :: .mark .equals :: t.value.val :: optionItems (fun s => [.mark s.mark]) t.separator

def toAttribute (t : AttributeTree) : Attribute :=
  ⟨t.key.text, t.value.text⟩

end AttributeTree

/-- One attribute list between its brackets. -/
abbrev ListTree := List AttributeTree

def ListTree.items (t : ListTree) : List Lexeme :=
  .mark .openBracket :: (t.flatMap AttributeTree.items ++ [.mark .closeBracket])

/-- Attribute lists one behind the other. -/
abbrev ListsTree := List ListTree

namespace ListsTree

def items (ts : ListsTree) : List Lexeme :=
  ts.flatMap ListTree.items

/-- The attributes of all the lists, in the order written. -/
def attributes (ts : ListsTree) : List Attribute :=
  ts.flatMap fun t => t.map AttributeTree.toAttribute

end ListsTree

structure LinkTree where
  op : EdgeOp
  name : EndItem

def LinkTree.items (t : LinkTree) : List Lexeme :=
  [.edgeOp t.op, t.name.val]

/-- An optional name, which is empty when it is left out. -/
def nameText (n : Option NameItem) : String :=
  n.elim "" NameItem.text

def nameItems : Option NameItem → List Lexeme :=
  optionItems fun n => [n.val]

/-- What stands before the opening brace of a subgraph. -/
abbrev OpeningTree := Option (KeywordItem .subgraph × Option NameItem)

namespace OpeningTree

def items : OpeningTree → List Lexeme :=
  optionItems fun t => t.1.val :: nameItems t.2

def name (t : OpeningTree) : String :=
  t.elim "" fun t => nameText t.2

end OpeningTree

mutual

inductive StatementTree where
  | attributes (target : Target) (keyword : KeywordItem target.keyword) (lists : ListsTree)
  | subgraph (opening : OpeningTree) (body : BodyTree)
  | assignment (key : NameItem) (value : IdItem)
  | edge (first : NameItem) (link : LinkTree) (links : List LinkTree) (lists : ListsTree)
  | node (name : NameItem) (lists : ListsTree)

/-- Statements, each with a semicolon behind it or without one. -/
inductive BodyTree where
  | nil
  | cons (statement : StatementTree) (semicolon : Bool) (rest : BodyTree)

end

def semicolonItems (semicolon : Bool) : List Lexeme :=
  if semicolon then [.mark .semicolon] else []

mutual

def StatementTree.items : StatementTree → List Lexeme
  | .attributes _ keyword lists => keyword.val :: lists.items
  | .subgraph opening body =>
    opening.items ++ .mark .openBrace :: (body.items ++ [.mark .closeBrace])
  | .assignment key value => [key.val, .mark .equals, value.val]
  | .edge first link links lists =>
    first.val :: (link.items ++ (links.flatMap LinkTree.items ++ lists.items))
  | .node name lists => name.val :: lists.items

def BodyTree.items : BodyTree → List Lexeme
  | .nil => []
  | .cons statement semicolon rest =>
    statement.items ++ (semicolonItems semicolon ++ rest.items)

end

mutual

/-- The statement that a tree denotes. An assignment is an attribute of the graph, and the operators
of an edge leave no trace. -/
def StatementTree.statement : StatementTree → Statement
  | .attributes target _ lists => .attributes target lists.attributes
  | .subgraph opening body => .subgraph opening.name body.statements
  | .assignment key value => .attributes .graph [⟨key.text, value.text⟩]
  | .edge first link links lists =>
    .edge ⟨first.text :: link.name.text :: links.map (·.name.text), lists.attributes⟩
  | .node name lists => .node ⟨name.text, lists.attributes⟩

def BodyTree.statements : BodyTree → List Statement
  | .nil => []
  | .cons statement _ rest => statement.statement :: rest.statements

end

structure GraphTree where
  strict : Option (KeywordItem .strict)
  kind : GraphKind
  keyword : KeywordItem kind.keyword
  name : Option NameItem
  body : BodyTree

namespace GraphTree

def items (t : GraphTree) : List Lexeme :=
  optionItems (fun s => [s.val]) t.strict ++ t.keyword.val :: (nameItems t.name ++
    .mark .openBrace :: (t.body.items ++ [.mark .closeBrace]))

def graph (t : GraphTree) : Graph :=
  ⟨t.kind, nameText t.name, t.strict.isSome, t.body.statements⟩

end GraphTree

/-- A derivation of a whole description. -/
abbrev Derivation := List GraphTree

namespace Derivation

def items (d : Derivation) : List Lexeme :=
  d.flatMap GraphTree.items

def graphs (d : Derivation) : List Graph :=
  d.map GraphTree.graph

end Derivation

end Grammar

end DotBinding.Dot

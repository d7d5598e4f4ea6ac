import DotBinding.Dot.Identifier
import DotBinding.Text.Position

/-!
# Tokens

The words and marks of a graph description.
-/

namespace DotBinding.Dot

/-- The punctuation. -/
inductive Mark where
  | openBrace
  | closeBrace
  | openBracket
  | closeBracket
  | equals
  | semicolon
  | comma
  deriving DecidableEq

namespace Mark

def char : Mark → Char
  | openBrace => '{'
  | closeBrace => '}'
  | openBracket => '['
  | closeBracket => ']'
  | equals => '='
  | semicolon => ';'
  | comma => ','

def all : List Mark :=
  [openBrace, closeBrace, openBracket, closeBracket, equals, semicolon, comma]

def ofChar? (c : Char) : Option Mark :=
  all.find? (·.char == c)

def text (m : Mark) : String :=
  String.singleton m.char

end Mark

/-- The two edge operators. Either may be written in either kind of graph. -/
inductive EdgeOp where
  | arrow
  | line
  deriving DecidableEq

def EdgeOp.text : EdgeOp → String
  | .arrow => "->"
  | .line => "--"

inductive Keyword where
  | strict
  | graph
  | digraph
  | node
  | edge
  | subgraph
  deriving DecidableEq

namespace Keyword

def text : Keyword → String
  | strict => "strict"
  | graph => "graph"
  | digraph => "digraph"
  | node => "node"
  | edge => "edge"
  | subgraph => "subgraph"

def all : List Keyword :=
  [strict, graph, digraph, node, edge, subgraph]

/-- The keyword that a word spells, in upper or lower case. -/
def ofWord? (word : String) : Option Keyword :=
  all.find? (·.text == String.ofList (word.toList.map Char.toLower))

end Keyword

/-- One item of a graph description. A quoted text is kept as it is written between its quotes. -/
inductive Lexeme where
  | word (text : String)
  | quoted (body : String)
  | numeral (text : String)
  | edgeOp (op : EdgeOp)
  | mark (m : Mark)
  deriving DecidableEq

namespace Lexeme

/-- The characters of an item as they are written. -/
def text : Lexeme → String
  | word s | numeral s => s
  | quoted body => "\"" ++ body ++ "\""
  | edgeOp op => op.text
  | mark m => m.text

def kindName : Lexeme → String
  | word _ => "IDENT"
  | quoted _ => "STRING"
  | numeral _ => "NUMBER"
  | edgeOp _ => "EDGEOP"
  | mark _ => "SYMBOL"

def keyword? : Lexeme → Option Keyword
  | word s => Keyword.ofWord? s
  | _ => none

/-- The text that an item stands for as an identifier. Keywords count. -/
def id? : Lexeme → Option String
  | word s | numeral s => some s
  | quoted body => some (String.ofList (unescape body.toList))
  | edgeOp _ | mark _ => none

/-- The text that an item stands for as a name. Keywords do not count unless they are quoted. -/
def name? (l : Lexeme) : Option String :=
  if l.keyword?.isSome then none else l.id?

end Lexeme

/-- An item and the place where it starts. -/
structure Token where
  lexeme : Lexeme
  position : Position
  deriving DecidableEq

end DotBinding.Dot

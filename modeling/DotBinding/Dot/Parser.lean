import DotBinding.Dot.Graph
import DotBinding.Dot.Scanner

/-!
# Reading a graph description

Reads a graph description one item at a time. A point says which blocks are open and what may come
next; a step takes one item to the next point, and closing the last block of a graph yields that
graph. No item is looked at twice, so a fault is at the first item that no description can have in
its place.
-/

namespace DotBinding.Dot

/-- What stands before the opening brace of a graph. -/
structure Header where
  strict : Bool
  kind : GraphKind
  name : String

/-- The blocks that are open, from the inside out, with the statements read in each so far. The
latest statement comes first. -/
inductive Blocks where
  | graph (header : Header) (statements : List Statement)
  | subgraph (name : String) (statements : List Statement) (outer : Blocks)

/-- Adds a statement to the innermost block. -/
def Blocks.add (s : Statement) : Blocks → Blocks
  | graph header statements => graph header (s :: statements)
  | subgraph name statements outer => subgraph name (s :: statements) outer

/-- The part of a statement that stands before its attribute lists. -/
inductive Head where
  | node (name : String)
  | edge (chain : List String)
  | attributes (target : Target)

def Head.statement (attributes : List Attribute) : Head → Statement
  | node name => .node ⟨name, attributes⟩
  | edge chain => .edge ⟨chain, attributes⟩
  | .attributes target => .attributes target attributes

/-- What has been read and what may come next. -/
inductive Point where
  /-- Between graphs. -/
  | graph
  /-- Behind `strict`. -/
  | graphKind
  /-- Behind the kind of a graph: its name or its opening brace. -/
  | graphName (strict : Bool) (kind : GraphKind)
  /-- Behind the name of a graph: its opening brace. -/
  | graphBody (header : Header)
  /-- A statement, or the closing brace. -/
  | statement (blocks : Blocks)
  /-- Behind a statement: a semicolon, or what may come without one. -/
  | separator (blocks : Blocks)
  /-- Behind a subgraph, which is no end of an edge. -/
  | subgraphEnd (blocks : Blocks)
  /-- Behind `subgraph`: its name or its opening brace. -/
  | subgraphName (blocks : Blocks)
  /-- Behind the name of a subgraph: its opening brace. -/
  | subgraphBody (blocks : Blocks) (name : String)
  /-- Behind a name at the start of a statement. -/
  | leadingName (blocks : Blocks) (name : String)
  /-- Behind `key =` at the start of a statement: the value. -/
  | assignment (blocks : Blocks) (key : String)
  /-- Behind an edge operator: a name. -/
  | endpoint (blocks : Blocks) (chain : List String)
  /-- Behind a name of a chain. -/
  | chainName (blocks : Blocks) (chain : List String)
  /-- An attribute list, or what may come behind the last one. -/
  | lists (blocks : Blocks) (head : Head) (attributes : List Attribute)
  /-- Inside an attribute list: a key, or the closing bracket. -/
  | attributeKey (blocks : Blocks) (head : Head) (attributes : List Attribute)
  /-- Behind a key. -/
  | attributeEquals (blocks : Blocks) (head : Head) (attributes : List Attribute) (key : String)
  /-- Behind `key =` in an attribute list. -/
  | attributeValue (blocks : Blocks) (head : Head) (attributes : List Attribute) (key : String)
  /-- Behind an attribute: a comma or a semicolon, or what may come without one. -/
  | attributeEnd (blocks : Blocks) (head : Head) (attributes : List Attribute)

/-- The point behind an item, and the graph that the item completes, if it completes one. -/
abbrev Step := Except Fault (Point × Option Graph)

namespace Point

def proceed (p : Point) : Step :=
  .ok (p, none)

def refuse (f : Fault) : Step :=
  .error f

/-- Closes the innermost block. -/
def close : Blocks → Step
  | .graph header statements =>
    .ok (graph, some ⟨header.kind, header.name, header.strict, statements.reverse⟩)
  | .subgraph name statements outer =>
    proceed (subgraphEnd (outer.add (.subgraph name statements.reverse)))

def kindStep (strict : Bool) (l : Lexeme) : Step :=
  match l.keyword? with
  | some .graph => proceed (graphName strict .graph)
  | some .digraph => proceed (graphName strict .digraph)
  | _ => refuse (.expectedGraph (some l))

def openStep (opened : Blocks) (l : Lexeme) : Step :=
  if l = .mark .openBrace then proceed (statement opened)
  else refuse (.expectedMark .openBrace (some l))

def statementStep (blocks : Blocks) (l : Lexeme) : Step :=
  match l.keyword? with
  | some .graph => proceed (lists blocks (.attributes .graph) [])
  | some .node => proceed (lists blocks (.attributes .node) [])
  | some .edge => proceed (lists blocks (.attributes .edge) [])
  | some .subgraph => proceed (subgraphName blocks)
  | some .strict | some .digraph => refuse (.unexpectedItem l)
  | none =>
    match l with
    | .mark .openBrace => proceed (statement (.subgraph "" [] blocks))
    | .mark .closeBrace => close blocks
    | _ =>
      match l.id? with
      | some n => proceed (leadingName blocks n)
      | none => refuse (.unexpectedItem l)

def separatorStep (blocks : Blocks) (l : Lexeme) : Step :=
  if l = .mark .semicolon then proceed (statement blocks) else statementStep blocks l

def listsStep (blocks : Blocks) (head : Head) (attributes : List Attribute) (l : Lexeme) : Step :=
  if l = .mark .openBracket then proceed (attributeKey blocks head attributes)
  else separatorStep (blocks.add (head.statement attributes)) l

def endpointStep (blocks : Blocks) (names : List String) (l : Lexeme) : Step :=
  if l.keyword? = some .subgraph ∨ l = .mark .openBrace then refuse .subgraphEndpoint
  else
    match l.id? with
    | some n => proceed (chainName blocks (names ++ [n]))
    | none => refuse (.expectedId (some l))

def attributeStep (blocks : Blocks) (head : Head) (attributes : List Attribute) (l : Lexeme) :
    Step :=
  if l = .mark .closeBracket then proceed (lists blocks head attributes)
  else
    match l.id? with
    | some key => proceed (attributeEquals blocks head attributes key)
    | none => refuse (.expectedId (some l))

/-- Takes one item. -/
def step : Point → Lexeme → Step
  | graph, l => if l.keyword? = some .strict then proceed graphKind else kindStep false l
  | graphKind, l => kindStep true l
  | graphName strict kind, l =>
    match l.name? with
    | some n => proceed (graphBody ⟨strict, kind, n⟩)
    | none => openStep (.graph ⟨strict, kind, ""⟩ []) l
  | graphBody header, l => openStep (.graph header []) l
  | statement blocks, l => statementStep blocks l
  | separator blocks, l => separatorStep blocks l
  | subgraphEnd blocks, l =>
    match l with
    | .edgeOp _ => refuse .subgraphEndpoint
    | _ => separatorStep blocks l
  | subgraphName blocks, l =>
    match l.name? with
    | some n => proceed (subgraphBody blocks n)
    | none => openStep (.subgraph "" [] blocks) l
  | subgraphBody blocks n, l => openStep (.subgraph n [] blocks) l
  | leadingName blocks n, l =>
    match l with
    | .mark .equals => proceed (assignment blocks n)
    | .edgeOp _ => proceed (endpoint blocks [n])
    | _ => listsStep blocks (.node n) [] l
  | assignment blocks key, l =>
    match l.id? with
    | some v => proceed (separator (blocks.add (.attributes .graph [⟨key, v⟩])))
    | none => refuse (.expectedId (some l))
  | endpoint blocks names, l => endpointStep blocks names l
  | chainName blocks names, l =>
    match l with
    | .edgeOp _ => proceed (endpoint blocks names)
    | _ => listsStep blocks (.edge names) [] l
  | lists blocks head attributes, l => listsStep blocks head attributes l
  | attributeKey blocks head attributes, l => attributeStep blocks head attributes l
  | attributeEquals blocks head attributes key, l =>
    if l = .mark .equals then proceed (attributeValue blocks head attributes key)
    else refuse (.expectedMark .equals (some l))
  | attributeValue blocks head attributes key, l =>
    match l.id? with
    | some v => proceed (attributeEnd blocks head (attributes ++ [⟨key, v⟩]))
    | none => refuse (.expectedId (some l))
  | attributeEnd blocks head attributes, l =>
    if l = .mark .comma ∨ l = .mark .semicolon then proceed (attributeKey blocks head attributes)
    else attributeStep blocks head attributes l

/-- What is missing when the text ends at a point. Only between graphs nothing is. -/
def missing? : Point → Option Fault
  | graph => none
  | graphKind => some (.expectedGraph none)
  | graphName _ _ | graphBody _ | subgraphName _ | subgraphBody _ _ =>
    some (.expectedMark .openBrace none)
  | statement _ | separator _ | subgraphEnd _ | leadingName _ _ | chainName _ _ | lists _ _ _ =>
    some (.expectedMark .closeBrace none)
  | attributeKey _ _ _ | attributeEnd _ _ _ => some (.expectedMark .closeBracket none)
  | attributeEquals _ _ _ _ => some (.expectedMark .equals none)
  | assignment _ _ | endpoint _ _ | attributeValue _ _ _ _ => some (.expectedId none)

end Point

/-- Reads items from a point to the end of the text, which is at `stop`. -/
def readFrom (stop : Position) (p : Point) : List Token → Except ParseError (List Graph)
  | [] =>
    match p.missing? with
    | none => .ok []
    | some f => .error ⟨f, stop⟩
  | t :: rest =>
    match p.step t.lexeme with
    | .error f => .error ⟨f, t.position⟩
    | .ok (next, none) => readFrom stop next rest
    | .ok (next, some g) => (readFrom stop next rest).map (g :: ·)

/-- The graphs of a text, in the order written. -/
def parse (source : String) : Except ParseError (List Graph) :=
  (scan source).bind fun tokens => readFrom tokens.stop .graph tokens.items

end DotBinding.Dot

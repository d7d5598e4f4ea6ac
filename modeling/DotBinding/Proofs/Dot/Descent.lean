import DotBinding.Dot.Parser

/-!
# Reading by recursive descent

The grammar read by one procedure for each of its rules, over a list of tokens with the end of the
text as its last entry and a place in it that moves on as tokens are taken. Such a reader could ask
for an entry behind the last one, go round a loop without taking anything, or open blocks without
end; each of these is a way to halt here. The run of the whole reader shows that none of them ever
happens: it ends as reading item by item does, with the graphs or with a fault. How much memory the
procedures that wait for each other take is left out.
-/

namespace DotBinding.Dot

/-- Why a descent gives no result. -/
inductive Halt where
  /-- The tokens are no description. -/
  | fault (e : ParseError)
  /-- An entry was asked for where there is none. -/
  | overrun
  /-- A round of a loop took no token, or none was taken between a subgraph and its block. -/
  | idle
  /-- There are more rounds, or more blocks inside each other, than allowed. -/
  | unfinished

/-- A part of a descent. It is given the tokens and the place that has been come to. -/
abbrev Descent := ReaderT Tokens (StateT Nat (Except Halt))

namespace Tokens

/-- The item at a place. There is none at the end. -/
def item? (ts : Tokens) (i : Nat) : Option Lexeme :=
  ts.items[i]?.map Token.lexeme

def position (ts : Tokens) (i : Nat) : Position :=
  ts.items[i]?.elim ts.stop Token.position

/-- The entry at a place: an item, or the end of the text behind the last item. -/
def entry (ts : Tokens) (i : Nat) : Except Halt (Option Lexeme × Position) :=
  if i ≤ ts.items.length then .ok (ts.item? i, ts.position i) else .error .overrun

end Tokens

namespace Descent

variable {α β : Type}

/-! ## Entries -/

/-- The entry at the present place. -/
def peek : Descent (Option Lexeme × Position) :=
  fun ts i => (ts.entry i).map fun found => (found, i)

/-- The entry at the present place, which is taken. -/
def advance : Descent (Option Lexeme × Position) :=
  fun ts i => (ts.entry i).map fun found => (found, i + 1)

def refuse (f : Fault) (position : Position) : Descent α :=
  throw (.fault ⟨f, position⟩)

def refuseHere (f : Fault) : Descent α := do
  let (_, position) ← peek
  refuse f position

/-- Whether the entry at the present place, none for the end, is of a kind. -/
def sees (test : Option Lexeme → Bool) : Descent Bool := do
  let (found, _) ← peek
  return test found

/-- Takes an entry and makes something of it. -/
def accept (make : Option Lexeme → Except Fault α) : Descent α := do
  let (found, position) ← advance
  match make found with
  | .ok a => return a
  | .error f => refuse f position

def skip : Descent Unit :=
  accept fun _ => .ok ()

def skipIf (test : Option Lexeme → Bool) : Descent Unit := do
  if ← sees test then skip else return ()

def expect (m : Mark) : Descent Unit :=
  accept fun found => if found = some (.mark m) then .ok () else .error (.expectedMark m found)

def identifier : Descent String :=
  accept fun found =>
    match found.bind Lexeme.id? with
    | some s => .ok s
    | none => .error (.expectedId found)

/-! ## Kinds of entries -/

def isMark (m : Mark) (found : Option Lexeme) : Bool :=
  found = some (.mark m)

def isKeyword (k : Keyword) (found : Option Lexeme) : Bool :=
  found.bind Lexeme.keyword? = some k

def isName (found : Option Lexeme) : Bool :=
  (found.bind Lexeme.name?).isSome

def isEdgeOp : Option Lexeme → Bool
  | some (.edgeOp _) => true
  | _ => false

def opensSubgraph (found : Option Lexeme) : Bool :=
  isKeyword .subgraph found || isMark .openBrace found

/-- Whether a row that a mark closes goes on. -/
def goesOn (m : Mark) (found : Option Lexeme) : Bool :=
  found.isSome && !isMark m found

/-! ## Loops -/

/-- A part that has to take a token. -/
def advancing (part : Descent α) : Descent α := do
  let start ← get
  let a ← part
  let stop ← get
  if stop ≤ start then throw .idle else return a

/-- A part that may only be run behind a place. -/
def beyond (start : Nat) (part : Descent α) : Descent α := do
  let here ← get
  if here ≤ start then throw .idle else part

/-- Runs a part again and again, as long as the entry at hand is of a kind. -/
def rounds (test : Option Lexeme → Bool) (part : Descent α) : (fuel : Nat) → Descent (List α)
  | 0 => throw .unfinished
  | fuel + 1 => do
    if ← sees test then
      let a ← advancing part
      let rest ← rounds test part fuel
      return a :: rest
    else return []

/-! ## Rules -/

/-- A key and its value. -/
def pair : Descent Attribute := do
  let key ← identifier
  expect .equals
  let value ← identifier
  skipIf fun found => isMark .comma found || isMark .semicolon found
  return ⟨key, value⟩

def attributeList (fuel : Nat) : Descent (List Attribute) := do
  expect .openBracket
  let attributes ← rounds (goesOn .closeBracket) pair fuel
  expect .closeBracket
  return attributes

def attributeLists (fuel : Nat) : Descent (List Attribute) := do
  let lists ← rounds (isMark .openBracket) (attributeList fuel) fuel
  return lists.flatten

def attributeStatement (fuel : Nat) (target : Target) : Descent Statement := do
  skip
  let attributes ← attributeLists fuel
  return .attributes target attributes

def assignment (key : String) : Descent Statement := do
  skip
  let value ← identifier
  return .attributes .graph [⟨key, value⟩]

/-- An edge operator and the name behind it. -/
def link : Descent String := do
  skip
  if ← sees opensSubgraph then refuseHere .subgraphEndpoint else identifier

def edge (fuel : Nat) (first : String) : Descent Statement := do
  let names ← rounds isEdgeOp link fuel
  let attributes ← attributeLists fuel
  return .edge ⟨first :: names, attributes⟩

def node (fuel : Nat) (name : String) : Descent Statement := do
  let attributes ← attributeLists fuel
  return .node ⟨name, attributes⟩

/-- A statement that begins with a name. -/
def named (fuel : Nat) : Descent Statement := do
  let first ← identifier
  if ← sees (isMark .equals) then assignment first
  else if ← sees isEdgeOp then edge fuel first
  else node fuel first

def optionalName : Descent String := do
  if ← sees isName then identifier else return ""

/-- What stands in front of the opening brace of a subgraph. -/
def subgraphName : Descent String := do
  if ← sees (isKeyword .subgraph) then
    skip
    optionalName
  else return ""

def subgraph (body : Descent (List Statement)) : Descent Statement := do
  let start ← get
  let name ← subgraphName
  expect .openBrace
  let statements ← beyond start body
  expect .closeBrace
  if ← sees isEdgeOp then refuseHere .subgraphEndpoint
  else return .subgraph name statements

/-- A statement is only asked for in front of an item. -/
def unexpected : Descent α := do
  let (found, position) ← peek
  match found with
  | some l => refuse (.unexpectedItem l) position
  | none => throw .overrun

def statement (fuel : Nat) (body : Descent (List Statement)) : Descent Statement := do
  if ← sees (isKeyword .graph) then attributeStatement fuel .graph
  else if ← sees (isKeyword .node) then attributeStatement fuel .node
  else if ← sees (isKeyword .edge) then attributeStatement fuel .edge
  else if ← sees opensSubgraph then subgraph body
  else if ← sees isName then named fuel
  else unexpected

def separated (fuel : Nat) (body : Descent (List Statement)) : Descent Statement := do
  let s ← statement fuel body
  skipIf (isMark .semicolon)
  return s

/-- The statements between braces. Blocks may stand inside each other up to a depth. -/
def block (fuel : Nat) : (depth : Nat) → Descent (List Statement)
  | 0 => throw .unfinished
  | depth + 1 => rounds (goesOn .closeBrace) (separated fuel (block fuel depth)) fuel

def strictness : Descent Bool := do
  if ← sees (isKeyword .strict) then
    skip
    return true
  else return false

def graphKind : Descent GraphKind :=
  accept fun found =>
    match found.bind Lexeme.keyword? with
    | some .graph => .ok .graph
    | some .digraph => .ok .digraph
    | _ => .error (.expectedGraph found)

def graph (fuel : Nat) : Descent Graph := do
  let strict ← strictness
  let kind ← graphKind
  let name ← optionalName
  expect .openBrace
  let statements ← block fuel fuel
  expect .closeBrace
  return ⟨kind, name, strict, statements⟩

/-- All graphs up to the end. -/
def graphs (fuel : Nat) : Descent (List Graph) :=
  rounds Option.isSome (graph fuel) fuel

end Descent

end DotBinding.Dot

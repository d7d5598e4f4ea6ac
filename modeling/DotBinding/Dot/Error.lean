import DotBinding.Dot.Token
import DotBinding.Text.Quoted

/-!
# Faults in a description

Why a text is no graph description, and where.
-/

namespace DotBinding.Dot

/-- What is wrong at a place. The item found there is missing at the end of the text. -/
inductive Fault where
  | unexpectedCharacter (c : Char)
  | expectedGraph (found : Option Lexeme)
  | expectedMark (m : Mark) (found : Option Lexeme)
  | expectedId (found : Option Lexeme)
  | unexpectedItem (found : Lexeme)
  | subgraphEndpoint
  deriving DecidableEq

namespace Fault

/-- The kind of the item found. -/
def kindFound : Option Lexeme → String
  | some l => l.kindName
  | none => "EOF"

/-- The characters of the item found, quoted. -/
def textFound (found : Option Lexeme) : String :=
  Text.quoted (found.elim "" Lexeme.text)

def message : Fault → String
  | unexpectedCharacter c => "Unexpected character: " ++ Text.quoted (String.singleton c)
  | expectedGraph found => "Expected 'graph' or 'digraph', got " ++ textFound found
  | expectedMark m (some (.mark found)) =>
    "Expected " ++ Text.quoted m.text ++ ", got " ++ Text.quoted found.text
  | expectedMark m found =>
    "Expected " ++ m.text ++ ", got " ++ kindFound found ++ " (" ++ textFound found ++ ")"
  | expectedId found =>
    "Expected an ID, got " ++ kindFound found ++ " (" ++ textFound found ++ ")"
  | unexpectedItem found => "Unexpected token " ++ textFound (some found)
  | subgraphEndpoint => "Subgraphs cannot be used as edge endpoints"

end Fault

/-- A fault and the place of the item that it is about. -/
structure ParseError where
  fault : Fault
  position : Position
  deriving DecidableEq

def ParseError.message (e : ParseError) : String :=
  "Line " ++ e.position.line.repr ++ ", col " ++ e.position.col.repr ++ ": " ++ e.fault.message

end DotBinding.Dot

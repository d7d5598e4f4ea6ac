import DotBinding.Dot.Error
import DotBinding.Dot.Identifier
import DotBinding.Text.Classes

/-!
# Splitting a text into tokens

Splits a text into items. Blanks and comments are passed over, and at each place the first rule
that fits says how far the item reaches. A rule counts the characters behind the first one, so
that every item has at least one.
-/

namespace DotBinding.Dot

namespace Scanner

/-- The length of a block comment's rest, its closing mark included. -/
def commentRest? : List Char → Option Nat
  | '*' :: '/' :: _ => some 2
  | _ :: rest => (commentRest? rest).map (· + 1)
  | [] => none

/-- The length of a quoted text, up to the closing quote. A character behind a backslash does not
close it. -/
def bodyLength? : List Char → Option Nat
  | '"' :: _ => some 0
  | '\\' :: _ :: rest => (bodyLength? rest).map (· + 2)
  | _ :: rest => (bodyLength? rest).map (· + 1)
  | [] => none

def lineLength (cs : List Char) : Nat :=
  (cs.takeWhile (· != '\n')).length

def isAsciiWordStart (c : Char) : Bool :=
  c.isAlpha || c == '_'

/-- The characters that begin a word: ASCII letters, the underscore and every character from U+0080
to U+FFFF. -/
def isWordStart (c : Char) : Bool :=
  isAsciiWordStart c || (CodeRange.mk 0x80 0xffff).contains c

def isWordPart (c : Char) : Bool :=
  isWordStart c || c.isDigit

def sliceOf (cs : List Char) (n : Nat) : String :=
  String.ofList (cs.take n)

/-- How many characters behind the first belong to a comment or to blanks. -/
def gap? (c : Char) (rest : List Char) : Option Nat :=
  if c = '#' then some (lineLength rest)
  else if c = '/' then
    match rest with
    | '/' :: _ => some (lineLength rest)
    | '*' :: body => (commentRest? body).map (· + 1)
    | _ => none
  else if Text.isBlank c then some (rest.takeWhile Text.isBlank).length
  else none

/-- The item that starts with a character, and how many characters behind it belong to it. -/
def item? (c : Char) (rest : List Char) : Option (Lexeme × Nat) :=
  if c = '"' then (bodyLength? rest).map fun n => (.quoted (sliceOf rest n), n + 1)
  else if c = '-' ∧ rest.head? = some '>' then some (.edgeOp .arrow, 1)
  else if c = '-' ∧ rest.head? = some '-' then some (.edgeOp .line, 1)
  else
    match Numeral.length? (c :: rest) with
    | some n => some (.numeral (sliceOf (c :: rest) n), n - 1)
    | none =>
      match Mark.ofChar? c with
      | some m => some (.mark m, 0)
      | none =>
        if isWordStart c then
          let n := (rest.takeWhile isWordPart).length
          some (.word (sliceOf (c :: rest) (n + 1)), n)
        else none

end Scanner

/-- The items of a text in order, and the place where it ends. -/
structure Tokens where
  items : List Token
  stop : Position
  deriving DecidableEq

def Tokens.cons (t : Token) (ts : Tokens) : Tokens :=
  ⟨t :: ts.items, ts.stop⟩

/-- Splits the text that starts at a place. The first `skip` characters belong to what was found
before it. -/
def scanFrom (p : Position) : (skip : Nat) → List Char → Except ParseError Tokens
  | _, [] => .ok ⟨[], p⟩
  | skip + 1, c :: rest => scanFrom (p.next c) skip rest
  | 0, c :: rest =>
    match Scanner.gap? c rest with
    | some n => scanFrom (p.next c) n rest
    | none =>
      match Scanner.item? c rest with
      | some (lexeme, n) => (scanFrom (p.next c) n rest).map (Tokens.cons ⟨lexeme, p⟩)
      | none => .error ⟨.unexpectedCharacter c, p⟩

def scan (source : String) : Except ParseError Tokens :=
  scanFrom .start 0 source.toList

/-- What is skipped only moves the place. -/
theorem scanFrom_skip (p : Position) (n : Nat) (cs : List Char) :
    scanFrom p n cs = scanFrom (p.after (cs.take n)) 0 (cs.drop n) := by
  induction cs generalizing p n with
  | nil => cases n <;> simp [scanFrom]
  | cons c rest ih =>
    cases n with
    | zero => rfl
    | succ n =>
      rw [scanFrom, ih]
      rfl

end DotBinding.Dot

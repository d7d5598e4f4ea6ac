import DotBinding.Value.Literal

/-!
# Violations

Places in data at which something else was expected, and reports on all of them.
-/

namespace DotBinding

namespace Text

/-- How many bytes characters take up. -/
def byteCount : List Char → Nat
  | [] => 0
  | c :: rest => c.utf8Size + byteCount rest

/-- The longest start that takes up no more bytes than the limit. -/
def startWithin (limit : Nat) : List Char → List Char
  | [] => []
  | c :: rest =>
    if c.utf8Size ≤ limit then c :: startWithin (limit - c.utf8Size) rest else []

/-- The longest end that takes up no more bytes than the limit. -/
def endWithin (limit : Nat) (cs : List Char) : List Char :=
  (startWithin limit cs.reverse).reverse

/-- A text of at most 50 bytes as it is. Of a longer one, 25 bytes of its start and 24 of its end,
with three points between them. -/
def excerpt (s : String) : String :=
  if byteCount s.toList ≤ 50 then s
  else String.ofList (startWithin 25 s.toList ++ ['.', '.', '.'] ++ endWithin 24 s.toList)

example : startWithin 3 ['a', 'é', 'b'] = ['a', 'é'] := by decide
example : endWithin 2 ['a', 'é', 'b'] = ['b'] := by decide

end Text

/-- What a value can be expected to be. -/
inductive Expectation where
  | map
  | text
  deriving DecidableEq

namespace Expectation

/-- The word under which an unmet expectation is reported. -/
def word : Expectation → String
  | map => "dict_type"
  | text => "string_type"

def sentence : Expectation → String
  | map => "Input should be a valid dictionary"
  | text => "Input should be a valid string"

/-- Where more is said about an unmet expectation. -/
def address (e : Expectation) : String :=
  "/".intercalate ["https:", "", "errors.pydantic.dev", "2.14", "v", e.word]

end Expectation

/-- Something else than expected was found at the end of a path. -/
structure Violation where
  path : List String
  expected : Expectation
  found : Value

namespace Violation

/-- A step of a path, between backticks if it holds a point, as steps are set apart by points. -/
def stepText (step : String) : String :=
  if step.toList.contains '.' then "\x60" ++ step ++ "\x60" else step

def place (v : Violation) : String :=
  ".".intercalate (v.path.map stepText)

/-- A value as reports show it, even if it cannot be written. -/
def shown (v : Value) : String :=
  if v.isWritable then v.literal else "<unprintable " ++ v.kindName ++ " object>"

/-- The lines of a report on one violation, with an excerpt of what was found. -/
def lines (v : Violation) : String :=
  v.place ++ "\n  " ++ v.expected.sentence ++ " [type=" ++ v.expected.word ++ ", input_value=" ++
    Text.excerpt (shown v.found) ++ ", input_type=" ++ v.found.kindName ++
    "]\n    For further information visit " ++ v.expected.address

/-- The report on violations in data of a kind. -/
def report (kind : String) (violations : List Violation) : String :=
  violations.length.repr ++ " validation error" ++ (if violations.length = 1 then "" else "s") ++
    " for " ++ kind ++ String.join (violations.map fun v => "\n" ++ v.lines)

end Violation

end DotBinding

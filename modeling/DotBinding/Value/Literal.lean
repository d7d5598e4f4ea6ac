import DotBinding.Binary64.Text
import DotBinding.Text.Quoted
import DotBinding.Value.Basic

/-!
# Literals

Values as text: a literal quotes every text in it, and the display of a text is the text. A value
with too long a whole number in it has neither: whatever would write it fails.
-/

namespace DotBinding

/-- How many digits a whole number may have to be read or written. -/
def digitLimit : Nat :=
  4300

namespace Value

/-- What is said where a value cannot be written. -/
def tooLongMessage : String :=
  "Exceeds the limit (" ++ digitLimit.repr ++ " digits) for integer string conversion; " ++
    "use sys.set_int_max_str_digits() to increase the limit"

mutual

/-- Whether a value can be written: no whole number in it, be it in a key, has too many digits. -/
def isWritable : Value → Bool
  | int n => decide ((Nat.toDigits 10 n.natAbs).length ≤ digitLimit)
  | list items | tuple items => areWritable items
  | map entries => entriesAreWritable entries
  | null | bool _ | float _ | text _ => true

def areWritable : List Value → Bool
  | [] => true
  | v :: rest => isWritable v && areWritable rest

def entriesAreWritable : List (Value × Value) → Bool
  | [] => true
  | (k, v) :: rest => isWritable k && isWritable v && entriesAreWritable rest

end

def listed (opening closing : String) (parts : List String) : String :=
  opening ++ ", ".intercalate parts ++ closing

mutual

/-- The literal of a value that can be written. -/
def literal : Value → String
  | null => "None"
  | bool true => "True"
  | bool false => "False"
  | int n => n.repr
  | float x => x.toText
  | text s => Text.quoted s
  | list items => listed "[" "]" (literals items)
  | tuple items =>
    match literals items with
    | [only] => "(" ++ only ++ ",)"
    | parts => listed "(" ")" parts
  | map entries => listed "\x7b" "\x7d" (entryLiterals entries)

def literals : List Value → List String
  | [] => []
  | v :: rest => literal v :: literals rest

def entryLiterals : List (Value × Value) → List String
  | [] => []
  | (k, v) :: rest => (literal k ++ ": " ++ literal v) :: entryLiterals rest

end

/-- A text as it is and every other value as its literal, if it can be written. -/
def display : Value → String
  | text s => s
  | v => v.literal

example : literal (list [int 1, text "b", null]) = "[1, 'b', None]" := by decide +kernel
example : literal (tuple [int 1]) = "(1,)" := by decide +kernel
example : literal (map [(text "k", int (-1))]) = "\x7b'k': -1\x7d" := by decide +kernel

example : isWritable (list [int (-9)]) = true := by decide
example : isWritable (list [int (10 ^ 4300)]) = false := by decide +kernel

end Value

end DotBinding

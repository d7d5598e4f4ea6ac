import DotBinding.Text.Position
import DotBinding.Value.Literal

/-!
# Malformed JSON

Why a text is no JSON text.
-/

namespace DotBinding.Json

inductive Problem where
  | expectingValue
  | expectingName
  | expectingColon
  | expectingComma
  | unterminatedString
  | controlCharacter
  | invalidEscape
  | invalidUnicodeEscape
  | extraData
  | byteOrderMark
  deriving DecidableEq

def Problem.message : Problem → String
  | expectingValue => "Expecting value"
  | expectingName => "Expecting property name enclosed in double quotes"
  | expectingColon => "Expecting ':' delimiter"
  | expectingComma => "Expecting ',' delimiter"
  | unterminatedString => "Unterminated string starting at"
  | controlCharacter => "Invalid control character at"
  | invalidEscape => "Invalid \\escape"
  | invalidUnicodeEscape => "Invalid \\uXXXX escape"
  | extraData => "Extra data"
  | byteOrderMark => "Unexpected UTF-8 BOM (decode using utf-8-sig)"

inductive Error where
  /-- A problem and how many characters stand before it. -/
  | malformed (problem : Problem) (offset : Nat)
  /-- A whole number with too many digits. -/
  | hugeNumber (digits : Nat)
  deriving DecidableEq

/-- An error as a message about the text that it was found in. -/
def Error.message (source : List Char) : Error → String
  | malformed problem offset =>
    let place := Position.start.after (source.take offset)
    problem.message ++ ": line " ++ place.line.repr ++ " column " ++ place.col.repr ++ " (char " ++
      offset.repr ++ ")"
  | hugeNumber digits =>
    "Exceeds the limit (" ++ digitLimit.repr ++ " digits) for integer string conversion: " ++
      "value has " ++ digits.repr ++
      " digits; use sys.set_int_max_str_digits() to increase the limit"

end DotBinding.Json

import DotBinding.Binary64.Text
import DotBinding.Text.Hexadecimal
import DotBinding.Value.Literal

/-!
# Writing JSON

Values as JSON text. Lists and tuples are written alike, and a number that is not finite is
written as a word. Not every value has a JSON text: a key may have no form in it, or a whole number
may be too long.
-/

namespace DotBinding.Json

/-- What a JSON text leaves open: which characters are escaped and how the parts are set apart. -/
structure Layout where
  /-- Whether everything but printable ASCII is escaped. -/
  ascii : Bool
  /-- What stands between two items that are on one line. -/
  itemSeparator : List Char
  keySeparator : List Char
  /-- By how much each level is indented, if every item has a line of its own. -/
  indent : Option Nat

namespace Layout

/-- All on one line, in ASCII. -/
def plain : Layout :=
  ⟨true, [',', ' '], [':', ' '], none⟩

/-- All on one line without blanks, and no more escaped than has to be. -/
def compact : Layout :=
  ⟨false, [','], [':'], none⟩

/-- Every item on a line of its own, two blanks deeper at each level, in ASCII. -/
def indented : Layout :=
  ⟨true, [','], [':', ' '], some 2⟩

end Layout

def unitEscape (n : Nat) : List Char :=
  '\\' :: 'u' :: Text.hexadecimal 4 n

/-- A character by its one or two UTF-16 units. -/
def codeEscape (n : Nat) : List Char :=
  if n < 0x10000 then unitEscape n
  else
    unitEscape (0xd800 + (n - 0x10000) / 0x400) ++ unitEscape (0xdc00 + (n - 0x10000) % 0x400)

def escapeChar (ascii : Bool) (c : Char) : List Char :=
  if c = '"' ∨ c = '\\' then ['\\', c]
  else if c = '\n' then ['\\', 'n']
  else if c = '\r' then ['\\', 'r']
  else if c = '\t' then ['\\', 't']
  else if c = '\x08' then ['\\', 'b']
  else if c = '\x0c' then ['\\', 'f']
  else if c.toNat < 0x20 ∨ ascii = true ∧ 0x7f ≤ c.toNat then codeEscape c.toNat
  else [c]

def writeText (ascii : Bool) (s : String) : List Char :=
  '"' :: s.toList.flatMap (escapeChar ascii) ++ ['"']

def writeFloat : Binary64 → List Char
  | .nan => "NaN".toList
  | .infinite false => "Infinity".toList
  | .infinite true => "-Infinity".toList
  | x => x.toText.toList

/-- The text of a map's key: a key that is no text becomes one. -/
def keyText : Value → String
  | .text s => s
  | .null => "null"
  | .bool true => "true"
  | .bool false => "false"
  | .int n => n.repr
  | .float x => String.ofList (writeFloat x)
  | v => v.literal

/-- Why a value has no JSON text. -/
inductive WriteError where
  /-- A map has a key of a kind that there is no form for. -/
  | key (kind : String)
  /-- A whole number has too many digits. -/
  | tooLong
  deriving DecidableEq

def WriteError.message : WriteError → String
  | key kind => "keys must be str, int, float, bool or None, not " ++ kind
  | tooLong => Value.tooLongMessage

/-- What is wrong with a whole number that cannot be written. -/
def lengthError? (n : Int) : Option WriteError :=
  if (Value.int n).isWritable then none else some .tooLong

/-- What is wrong with a value as a key. One that holds other values has no form. -/
def keyError? : Value → Option WriteError
  | .int n => lengthError? n
  | .list items => some (.key (Value.kindName (.list items)))
  | .tuple items => some (.key (Value.kindName (.tuple items)))
  | .map entries => some (.key (Value.kindName (.map entries)))
  | .null | .bool _ | .float _ | .text _ => none

mutual

/-- The first thing in a value that keeps it from being written. -/
def findError? : Value → Option WriteError
  | .int n => lengthError? n
  | .list items | .tuple items => findItemError? items
  | .map entries => findEntryError? entries
  | .null | .bool _ | .float _ | .text _ => none

def findItemError? : List Value → Option WriteError
  | [] => none
  | v :: rest => (findError? v).or (findItemError? rest)

def findEntryError? : List (Value × Value) → Option WriteError
  | [] => none
  | (k, v) :: rest => ((keyError? k).or (findError? v)).or (findEntryError? rest)

end

/-- The start of a line at a level, if items have lines of their own. -/
def lineStart (layout : Layout) (level : Nat) : List Char :=
  match layout.indent with
  | some width => '\n' :: List.replicate (width * level) ' '
  | none => []

/-- Items between brackets, one level deeper than these. -/
def bracketed (layout : Layout) (level : Nat) (opening closing : Char) (items : List (List Char)) :
    List Char :=
  if items.isEmpty then [opening, closing]
  else
    let start := lineStart layout (level + 1)
    opening :: start ++ (layout.itemSeparator ++ start).intercalate items ++
      lineStart layout level ++ [closing]

mutual

/-- The text of a value at a level of nesting, if there is no error in the value. -/
def write (layout : Layout) (level : Nat) : Value → List Char
  | .null => "null".toList
  | .bool true => "true".toList
  | .bool false => "false".toList
  | .int n => n.repr.toList
  | .float x => writeFloat x
  | .text s => writeText layout.ascii s
  | .list items | .tuple items =>
    bracketed layout level '[' ']' (writeItems layout (level + 1) items)
  | .map entries => bracketed layout level '{' '}' (writeEntries layout (level + 1) entries)

def writeItems (layout : Layout) (level : Nat) : List Value → List (List Char)
  | [] => []
  | v :: rest => write layout level v :: writeItems layout level rest

def writeEntries (layout : Layout) (level : Nat) : List (Value × Value) → List (List Char)
  | [] => []
  | (k, v) :: rest =>
    (writeText layout.ascii (keyText k) ++ layout.keySeparator ++ write layout level v) ::
      writeEntries layout level rest

end

/-- The JSON text of a value without an error in it. -/
def toText (layout : Layout) (v : Value) : String :=
  String.ofList (write layout 0 v)

end DotBinding.Json

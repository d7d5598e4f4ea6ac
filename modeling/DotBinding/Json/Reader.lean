import DotBinding.Json.Error
import DotBinding.Text.Hexadecimal
import DotBinding.Value.Record

/-!
# Reading JSON

Reads JSON texts. The reader takes one item at a time: a point says what is open and what may come
next, and each step tells how many characters it took, so that a problem is known by its offset.
Besides the numbers of the standard there are the words for infinity and for no number.
-/

namespace DotBinding.Json

def isBlank (c : Char) : Bool :=
  c == ' ' || c == '\t' || c == '\n' || c == '\r'

/-- The part of a numeral behind its sign. -/
structure Numeral where
  whole : List Char
  fraction : List Char
  /-- The sign and the digits of the exponent. -/
  exponent? : Option (Option Char × List Char)

namespace Numeral

/-- A zero, or all digits if the first one is no zero. -/
def wholeOf : List Char → List Char
  | '0' :: _ => ['0']
  | cs => cs.takeWhile Char.isDigit

/-- The digits behind a point. A point without any belongs to what follows. -/
def fractionOf : List Char → List Char
  | '.' :: cs => cs.takeWhile Char.isDigit
  | _ => []

def signOf : List Char → Option Char
  | '-' :: _ => some '-'
  | '+' :: _ => some '+'
  | _ => none

/-- An exponent, which has at least one digit. -/
def exponentOf : List Char → Option (Option Char × List Char)
  | c :: cs =>
    if c = 'e' ∨ c = 'E' then
      let sign := signOf cs
      match (cs.drop sign.toList.length).takeWhile Char.isDigit with
      | [] => none
      | digits => some (sign, digits)
    else none
  | [] => none

/-- The numeral at the start of a text. -/
def read? (cs : List Char) : Option Numeral :=
  match wholeOf cs with
  | [] => none
  | whole =>
    let fraction := fractionOf (cs.drop whole.length)
    let behind := if fraction.isEmpty then whole.length else whole.length + 1 + fraction.length
    some ⟨whole, fraction, exponentOf (cs.drop behind)⟩

def length (n : Numeral) : Nat :=
  n.whole.length + (if n.fraction.isEmpty then 0 else 1 + n.fraction.length) +
    n.exponent?.elim 0 fun e => 1 + e.1.toList.length + e.2.length

def exponent (n : Numeral) : Int :=
  match n.exponent? with
  | some (some '-', digits) => -(Nat.ofDigitChars 10 digits 0)
  | some (_, digits) => Nat.ofDigitChars 10 digits 0
  | none => 0

/-- The value of a numeral: a whole number if it has neither a fraction nor an exponent. -/
def value (negative : Bool) (n : Numeral) : Except Error Value :=
  if n.fraction.isEmpty && n.exponent?.isNone then
    if digitLimit < n.whole.length then .error (.hugeNumber n.whole.length)
    else
      let magnitude := Nat.ofDigitChars 10 n.whole 0
      .ok (.int (if negative then -magnitude else magnitude))
  else
    .ok (.float (Binary64.ofDecimal negative (Nat.ofDigitChars 10 (n.whole ++ n.fraction) 0)
      (n.exponent - n.fraction.length)))

end Numeral

/-- The character of a UTF-16 unit. Half a pair alone stands for no character, and texts consist of
characters: it becomes the replacement character, where a text of units would keep it. -/
def unitChar (n : Nat) : Char :=
  if 0xd800 ≤ n ∧ n < 0xe000 then '\ufffd' else Char.ofNat n

def isHighHalf (n : Nat) : Bool :=
  decide (0xd800 ≤ n) && decide (n < 0xdc00)

def isLowHalf (n : Nat) : Bool :=
  decide (0xdc00 ≤ n) && decide (n < 0xe000)

def joinHalves (high low : Nat) : Char :=
  Char.ofNat (0x10000 + (high - 0xd800) * 0x400 + (low - 0xdc00))

/-- The character of an escape of one character. -/
def shortEscape? (c : Char) : Option Char :=
  if c = '"' ∨ c = '\\' ∨ c = '/' then some c
  else if c = 'b' then some '\x08'
  else if c = 'f' then some '\x0c'
  else if c = 'n' then some '\n'
  else if c = 'r' then some '\r'
  else if c = 't' then some '\t'
  else none

/-- The unit that four hexadecimal digits write. More text has to follow. -/
def unit? (cs : List Char) : Option Nat :=
  if (cs.drop 4).isEmpty then none else Text.ofHexadecimal? (cs.take 4)

/-- The character of an escape by its unit, where `cs` is behind the unit, and how many characters
of `cs` belong to it: two halves of a pair are one character. -/
def unitEscape? (unit : Nat) (cs : List Char) : Option (Char × Nat) :=
  match cs with
  | '\\' :: 'u' :: more =>
    if isHighHalf unit && !(more.drop 4).isEmpty then
      (unit? more).map fun low =>
        if isLowHalf low then (joinHalves unit low, 6) else (unitChar unit, 0)
    else some (unitChar unit, 0)
  | _ => some (unitChar unit, 0)

/-- The character of an escape, where `cs` is behind the backslash, and how many characters belong
to it. A problem comes with how many characters stand before it, counted from the backslash. -/
def escape? : List Char → Except (Problem × Nat) (Char × Nat)
  | [] => .error (.unterminatedString, 0)
  | 'u' :: cs =>
    match unit? cs with
    | none => .error (.invalidUnicodeEscape, 1)
    | some unit =>
      match unitEscape? unit (cs.drop 4) with
      | none => .error (.invalidUnicodeEscape, 7)
      | some (c, n) => .ok (c, 5 + n)
  | c :: _ =>
    match shortEscape? c with
    | some d => .ok (d, 1)
    | none => .error (.invalidEscape, 0)

/-- The characters of a text and how many characters write it, its closing quote included. The
opening quote stands `taken` characters before the list, and a problem is counted from there. The
first `skip` characters belong to an escape read before. -/
def readText (taken : Nat) : (skip : Nat) → List Char → Except (Problem × Nat) (List Char × Nat)
  | _, [] => .error (.unterminatedString, 0)
  | skip + 1, _ :: rest => readText (taken + 1) skip rest
  | 0, c :: rest =>
    if c = '"' then .ok ([], taken)
    else if c = '\\' then
      match escape? rest with
      | .error (.unterminatedString, _) => .error (.unterminatedString, 0)
      | .error (problem, shift) => .error (problem, taken + shift)
      | .ok (d, n) => (readText (taken + 1) n rest).map fun r => (d :: r.1, r.2)
    else if c.toNat < 0x20 then .error (.controlCharacter, taken)
    else (readText (taken + 1) 0 rest).map fun r => (c :: r.1, r.2)

/-- The lists and maps that are open, from the inside out. The latest item of a list comes first. -/
inductive Nest where
  | top
  | list (items : List Value) (outer : Nest)
  | map (entries : Record) (key : String) (outer : Nest)

/-- What is open and what may come next. -/
inductive Point where
  | value (nest : Nest)
  /-- Behind an opening bracket: an item or the closing bracket. -/
  | listStart (outer : Nest)
  /-- Behind an item. -/
  | listEnd (items : List Value) (outer : Nest)
  /-- Behind an opening brace: a key or the closing brace. -/
  | mapStart (outer : Nest)
  | mapKey (entries : Record) (outer : Nest)
  | colon (entries : Record) (key : String) (outer : Nest)
  /-- Behind an entry. -/
  | mapEnd (entries : Record) (outer : Nest)
  | finished (v : Value)

namespace Point

/-- The point behind a value. A key that comes again keeps its first place. -/
def behind (v : Value) : Nest → Point
  | .top => finished v
  | .list items outer => listEnd (v :: items) outer
  | .map entries key outer => mapEnd (entries.set key v) outer

/-- The problem of a point where something else stands, or nothing. -/
def problem : Point → Problem
  | value _ | listStart _ => .expectingValue
  | listEnd _ _ | mapEnd _ _ => .expectingComma
  | mapStart _ | mapKey _ _ => .expectingName
  | colon _ _ _ => .expectingColon
  | finished _ => .extraData

/-- The next point and how many characters behind the first one were taken, or an error with an
offset from the first one. -/
abbrev Step := Except Error (Point × Nat)

def proceed (p : Point) : Step :=
  .ok (p, 0)

def refuse (p : Point) : Step :=
  .error (.malformed p.problem 0)

/-- Takes a text that starts with a quote and goes on to the point that it leads to. -/
def takeText (rest : List Char) (next : String → Point) : Step :=
  match readText 1 0 rest with
  | .ok (cs, n) => .ok (next (String.ofList cs), n)
  | .error (problem, shift) => .error (.malformed problem shift)

/-- A word and its value. -/
def words : List (List Char × Value) :=
  [("null".toList, .null), ("true".toList, .bool true), ("false".toList, .bool false),
    ("NaN".toList, .float .nan), ("Infinity".toList, .float (.infinite false)),
    ("-Infinity".toList, .float (.infinite true))]

/-- Takes a word or a number. -/
def takeScalar (nest : Nest) (c : Char) (rest : List Char) : Step :=
  match words.find? fun w => w.1.isPrefixOf (c :: rest) with
  | some (word, v) => .ok (behind v nest, word.length - 1)
  | none =>
    let negative := c == '-'
    match Numeral.read? (if negative then rest else c :: rest) with
    | none => refuse (value nest)
    | some n =>
      (n.value negative).map fun v =>
        (behind v nest, if negative then n.length else n.length - 1)

def takeValue (nest : Nest) (c : Char) (rest : List Char) : Step :=
  if c = '"' then takeText rest fun s => behind (.text s) nest
  else if c = '[' then proceed (listStart nest)
  else if c = '{' then proceed (mapStart nest)
  else takeScalar nest c rest

/-- Takes an item that starts with a character other than a blank. -/
def step (c : Char) (rest : List Char) : Point → Step
  | value nest => takeValue nest c rest
  | listStart outer =>
    if c = ']' then proceed (behind (.list []) outer) else takeValue (.list [] outer) c rest
  | listEnd items outer =>
    if c = ',' then proceed (value (.list items outer))
    else if c = ']' then proceed (behind (.list items.reverse) outer)
    else refuse (listEnd items outer)
  | mapStart outer =>
    if c = '}' then proceed (behind (.map []) outer)
    else if c = '"' then takeText rest fun s => colon .empty s outer
    else refuse (mapStart outer)
  | mapKey entries outer =>
    if c = '"' then takeText rest fun s => colon entries s outer
    else refuse (mapKey entries outer)
  | colon entries name outer =>
    if c = ':' then proceed (value (.map entries name outer)) else refuse (colon entries name outer)
  | mapEnd entries outer =>
    if c = ',' then proceed (mapKey entries outer)
    else if c = '}' then proceed (behind entries.toValue outer)
    else refuse (mapEnd entries outer)
  | finished v => refuse (finished v)

end Point

/-- Moves the offset of an error. -/
def Error.shift (n : Nat) : Error → Error
  | malformed problem offset => malformed problem (n + offset)
  | hugeNumber digits => hugeNumber digits

/-- Reads the text that stands behind `offset` characters from a point to its end. The first `skip`
characters belong to what was read before. -/
def readFrom (offset : Nat) (p : Point) : (skip : Nat) → List Char → Except Error Value
  | _, [] =>
    match p with
    | .finished v => .ok v
    | p => .error (.malformed p.problem offset)
  | skip + 1, _ :: rest => readFrom (offset + 1) p skip rest
  | 0, c :: rest =>
    if isBlank c then readFrom (offset + 1) p 0 rest
    else
      match p.step c rest with
      | .error e => .error (e.shift offset)
      | .ok (next, n) => readFrom (offset + 1) next n rest

/-- The value of a JSON text. A byte order mark is no part of one. -/
def read (source : List Char) : Except Error Value :=
  if source.head? = some '\ufeff' then .error (.malformed .byteOrderMark 0)
  else readFrom 0 (.value .top) 0 source

example : read "[1, \"a\"]".toList matches .ok (.list [.int 1, .text "a"]) := by decide +kernel

end DotBinding.Json

import DotBinding.Text.Classes

/-!
# Identifiers

How identifiers other than words are written. One is a text between double quotes: a quote and a
backslash inside are written behind a backslash; reading also joins a line that ends in a backslash
to the next one, and keeps every other backslash. The other is a numeral: digits of any script with
an optional sign and an optional point.
-/

namespace DotBinding.Dot

def escape : List Char → List Char
  | [] => []
  | c :: rest => if c = '\\' ∨ c = '"' then '\\' :: c :: escape rest else c :: escape rest

def unescape : List Char → List Char
  | '\\' :: '\n' :: rest => unescape rest
  | '\\' :: '"' :: rest => '"' :: unescape rest
  | '\\' :: '\\' :: rest => '\\' :: unescape rest
  | c :: rest => c :: unescape rest
  | [] => []

/-- A text between double quotes. -/
def enclose (s : String) : String :=
  String.ofList ('"' :: escape s.toList ++ ['"'])

theorem unescape_cons {c : Char} (h : c ≠ '\\') (rest : List Char) :
    unescape (c :: rest) = c :: unescape rest := by
  rw [unescape] <;> simp_all

/-- What is escaped reads back, whatever characters it holds. -/
theorem unescape_escape (cs : List Char) : unescape (escape cs) = cs := by
  induction cs with
  | nil => rfl
  | cons c rest ih =>
    by_cases hb : c = '\\'
    · simp [escape, hb, unescape, ih]
    · by_cases hq : c = '"'
      · simp [escape, hq, unescape, ih]
      · simp [escape, hb, hq, unescape_cons hb, ih]

namespace Numeral

def digitCount (cs : List Char) : Nat :=
  (cs.takeWhile Text.isDecimalDigit).length

/-- The length of the longest unsigned numeral at the start of a text: digits, perhaps with a point
and more digits behind them, or a point and at least one digit. -/
def unsignedLength? (cs : List Char) : Option Nat :=
  let whole := digitCount cs
  match cs.drop whole with
  | '.' :: rest =>
    let fraction := digitCount rest
    if whole = 0 ∧ fraction = 0 then none else some (whole + 1 + fraction)
  | _ => if whole = 0 then none else some whole

/-- The length of the longest numeral at the start of a text. -/
def length? : List Char → Option Nat
  | '-' :: rest => (unsignedLength? rest).map (· + 1)
  | cs => unsignedLength? cs

end Numeral

end DotBinding.Dot

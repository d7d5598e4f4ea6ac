/-!
# Binary floating-point numbers

Binary floating-point numbers of 64 bits. A finite number is a sign and the rank of its magnitude
among all finite magnitudes, so that no number has two forms. Every finite magnitude is a whole
number of units, the unit being the least positive number `2 ^ (-1074)`.
-/

namespace DotBinding

namespace Binary64

/-- How many finite magnitudes there are. -/
def magnitudes : Nat :=
  2047 * Nat.pow 2 52

end Binary64

inductive Binary64 where
  | finite (negative : Bool) (rank : Fin Binary64.magnitudes)
  | infinite (negative : Bool)
  | nan
  deriving DecidableEq

namespace Binary64

/-- How often the spacing has doubled up to a rank. -/
def binade (rank : Nat) : Nat :=
  rank / Nat.pow 2 52 - 1

def significand (rank : Nat) : Nat :=
  rank - binade rank * Nat.pow 2 52

/-- The magnitude of a rank, in units. -/
def units (rank : Nat) : Nat :=
  significand rank * Nat.pow 2 (binade rank)

/-- The whole number nearest to a quotient; a half goes to the even neighbour. -/
def nearest (num den : Nat) : Nat :=
  let q := num / den
  let r := num % den
  if 2 * r < den ∨ 2 * r = den ∧ q % 2 = 0 then q else q + 1

/-- The rank of the magnitude nearest to a quotient of units. It is `magnitudes` or more when the
quotient is too large to be finite. -/
def nearestRank (num den : Nat) : Nat :=
  let doublings := (num / den).log2 - 52
  doublings * Nat.pow 2 52 + nearest num (den * Nat.pow 2 doublings)

/-- The number of a sign and a rank. -/
def ofRank (negative : Bool) (rank : Nat) : Binary64 :=
  if h : rank < magnitudes then finite negative ⟨rank, h⟩ else infinite negative

/-- The number nearest to `digits * 10 ^ exponent`. What lies far outside the range is decided
without raising a power. -/
def ofDecimal (negative : Bool) (digits : Nat) (exponent : Int) : Binary64 :=
  if digits = 0 then ofRank negative 0
  else if 310 < exponent then infinite negative
  else if exponent + (digits.log2 + 1) * 31 / 100 < -330 then ofRank negative 0
  else
    match exponent with
    | .ofNat e => ofRank negative (nearestRank (digits * Nat.pow 10 e * Nat.pow 2 1074) 1)
    | .negSucc e => ofRank negative (nearestRank (digits * Nat.pow 2 1074) (Nat.pow 10 (e + 1)))

def isFinite : Binary64 → Bool
  | finite _ _ => true
  | infinite _ | nan => false

/-- Whether a number is zero, of either sign. -/
def isZero : Binary64 → Bool
  | finite _ rank => rank.val == 0
  | infinite _ | nan => false

end Binary64

end DotBinding

import DotBinding.Binary64.Basic

/-!
# Floating-point numbers as text

Numbers as text: the shortest decimal that reads back. A decimal is looked for on ever finer grids
`10 ^ (grid - 1074)`; the first grid that holds one gives the fewest digits. Of the two grid points
around the magnitude the nearer one is tried first, and at the same distance the even one. The text
is positional when the point falls between three places before the digits and sixteen behind their
start, and has an exponent of at least two digits otherwise.
-/

namespace DotBinding.Binary64

/-- The rank that the decimal `digits * 10 ^ (grid - 1074)` reads as. -/
def rankOfDecimal (digits grid : Nat) : Nat :=
  nearestRank (digits * Nat.pow 10 grid * Nat.pow 2 1074) (Nat.pow 10 1074)

/-- A point of a grid that reads as the rank: the nearest point to the magnitude, or the one on its
other side. -/
def onGrid? (rank grid : Nat) : Option Nat :=
  let magnitude := units rank * Nat.pow 5 1074
  let near := nearest magnitude (Nat.pow 10 grid)
  let below := magnitude / Nat.pow 10 grid
  let far := if near = below then below + 1 else below
  [near, far].find? fun digits => rankOfDecimal digits grid == rank

/-- The first point on the way from a grid down to the finest one, where one is given, and the grid
that it is on. -/
def searchBelow (point? : Nat → Option Nat) (finest : Nat) : Nat → Nat × Nat
  | 0 => (finest, 0)
  | grid + 1 =>
    match point? (grid + 1) with
    | some digits => (digits, grid + 1)
    | none => searchBelow point? finest grid

/-- A grid too coarse to hold the magnitude of a rank: its step is larger than the magnitude. -/
def coarseGrid (rank : Nat) : Nat :=
  ((units rank).log2 + 1) * 30103 / 100000 + 752

/-- The digits and the grid of the shortest decimal. The finest grid holds every magnitude. -/
def shortest (rank : Nat) : Nat × Nat :=
  searchBelow (onGrid? rank) (units rank * Nat.pow 5 1074) (coarseGrid rank)

/-- Digits with a point after the first `point` of them, padded with zeros on either side. -/
def positional (digits : List Char) (point : Int) : List Char :=
  if point ≤ 0 then '0' :: '.' :: List.replicate (-point).toNat '0' ++ digits
  else if digits.length ≤ point.toNat then
    digits ++ List.replicate (point.toNat - digits.length) '0' ++ ['.', '0']
  else digits.take point.toNat ++ '.' :: digits.drop point.toNat

def exponentText (exponent : Int) : List Char :=
  let digits := Nat.toDigits 10 exponent.natAbs
  let sign := if exponent < 0 then '-' else '+'
  'e' :: sign :: (List.replicate (2 - digits.length) '0' ++ digits)

/-- One digit, a point if more follow, the other digits and the exponent. -/
def scientific (digits : List Char) (point : Int) : List Char :=
  let fraction := if digits.length ≤ 1 then [] else '.' :: digits.drop 1
  digits.take 1 ++ fraction ++ exponentText (point - 1)

def magnitudeText (rank : Nat) : List Char :=
  if rank = 0 then ['0', '.', '0']
  else
    let (number, grid) := shortest rank
    let digits := Nat.toDigits 10 number
    let point : Int := digits.length + grid - 1074
    if -3 ≤ point ∧ point ≤ 16 then positional digits point else scientific digits point

def signed (negative : Bool) (cs : List Char) : List Char :=
  if negative then '-' :: cs else cs

def toText : Binary64 → String
  | finite negative rank => String.ofList (signed negative (magnitudeText rank))
  | infinite negative => String.ofList (signed negative ['i', 'n', 'f'])
  | nan => "nan"

end DotBinding.Binary64

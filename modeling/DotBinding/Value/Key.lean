import DotBinding.Value.Basic

/-!
# Keys

When two values are one key of a map. Numbers are one key if they are equal, whatever their kind,
and the truth values count as one and zero.
-/

namespace DotBinding

namespace Binary64

/-- A finite number in units. -/
def amount? : Binary64 → Option Int
  | finite negative rank => some (if negative then -(units rank : Int) else units rank)
  | infinite _ | nan => none

end Binary64

namespace Value

/-- The finite number that a value counts as, in the units of floating-point numbers. -/
def amount? : Value → Option Int
  | bool b => some (if b then Nat.pow 2 1074 else 0)
  | int n => some (n * Nat.pow 2 1074)
  | float x => x.amount?
  | null | text _ | list _ | tuple _ | map _ => none

def sameAmount (v w : Value) : Bool :=
  match v.amount?, w.amount? with
  | some m, some n => m == n
  | _, _ => false

mutual

/-- Whether two values are one key. A list, a map and the float that is not a number are never the
same key as another value, not even one of the same form. -/
def sameKey : Value → Value → Bool
  | text s, w => w.isText s
  | null, w => w.isNull
  | float (.infinite negative), float (.infinite negative') => negative == negative'
  | tuple items, tuple items' => sameKeys items items'
  | v, w => sameAmount v w

def sameKeys : List Value → List Value → Bool
  | [], [] => true
  | v :: rest, w :: rest' => sameKey v w && sameKeys rest rest'
  | _, _ => false

end

@[simp] theorem sameKey_text (s : String) (v : Value) : (text s).sameKey v = v.isText s := by
  rw [sameKey]

example : (bool true).sameKey (int 1) = true := by decide +kernel
example : (int 0).sameKey (float (.ofRank true 0)) = true := by decide +kernel
example : (float .nan).sameKey (float .nan) = false := by decide +kernel

end Value

end DotBinding

/-!
# Hexadecimal fields

Numbers as hexadecimal digits in a field of fixed width.
-/

namespace DotBinding.Text

/-- The last `width` hexadecimal digits of a number, in lower case. -/
def hexadecimal : Nat → Nat → List Char
  | 0, _ => []
  | width + 1, n => hexadecimal width (n / 16) ++ [Nat.digitChar (n % 16)]

/-- The value of a hexadecimal digit of either case. -/
def hexadecimalDigit? (c : Char) : Option Nat :=
  if '0' ≤ c ∧ c ≤ '9' then some (c.toNat - '0'.toNat)
  else if 'a' ≤ c ∧ c ≤ 'f' then some (c.toNat - 'a'.toNat + 10)
  else if 'A' ≤ c ∧ c ≤ 'F' then some (c.toNat - 'A'.toNat + 10)
  else none

/-- The number that a row of hexadecimal digits writes. -/
def ofHexadecimal? (cs : List Char) : Option Nat :=
  cs.foldlM (fun n c => (hexadecimalDigit? c).map (n * 16 + ·)) 0

theorem hexadecimalDigit?_digitChar {n : Nat} (h : n < 16) :
    hexadecimalDigit? (Nat.digitChar n) = some n := by
  revert n; decide

theorem length_hexadecimal (width n : Nat) : (hexadecimal width n).length = width := by
  induction width generalizing n with
  | zero => rfl
  | succ width ih => simp [hexadecimal, ih]

/-- A field that is wide enough reads back. -/
theorem ofHexadecimal?_hexadecimal {width n : Nat} (h : n < Nat.pow 16 width) :
    ofHexadecimal? (hexadecimal width n) = some n := by
  induction width generalizing n with
  | zero => simp_all [hexadecimal, ofHexadecimal?]
  | succ width ih =>
    have hq : n / 16 < Nat.pow 16 width :=
      Nat.div_lt_of_lt_mul (Nat.mul_comm (Nat.pow 16 width) 16 ▸ h)
    have hr := hexadecimalDigit?_digitChar (Nat.mod_lt n (by decide : 0 < 16))
    have hi := ih hq
    unfold ofHexadecimal? at hi ⊢
    simp only [hexadecimal, List.foldlM_append, hi, List.foldlM_cons, List.foldlM_nil, hr]
    simp [Nat.div_add_mod']

end DotBinding.Text

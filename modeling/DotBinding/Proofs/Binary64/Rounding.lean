import DotBinding.Binary64.Text
import Mathlib.Algebra.Order.Ring.Nat
import Mathlib.Tactic.Lemma
import Mathlib.Tactic.Ring

/-!
# Rounding

The rank nearest to a quotient depends on the quotient alone, however it is written, and a magnitude
has its own rank as the nearest. A decimal far outside of the range, for which no power is raised,
comes to the same number as if it were rounded like any other.
-/

namespace DotBinding.Binary64

lemma pow_pos_of_pos {b : Nat} (hb : 0 < b) (n : Nat) : 0 < Nat.pow b n :=
  Nat.pow_pos hb

/-! ## Quotients -/

lemma nearest_mul {k : Nat} (hk : 0 < k) (num den : Nat) :
    nearest (k * num) (k * den) = nearest num den := by
  have hhalf : 2 * (k * (num % den)) = k * (2 * (num % den)) := by ring
  unfold nearest
  rw [Nat.mul_div_mul_left num den hk, Nat.mul_mod_mul_left]
  simp only [hhalf, Nat.mul_lt_mul_left hk, Nat.mul_left_cancel_iff hk]

lemma nearestRank_mul {k : Nat} (hk : 0 < k) (num den : Nat) :
    nearestRank (k * num) (k * den) = nearestRank num den := by
  unfold nearestRank
  rw [Nat.mul_div_mul_left num den hk]
  dsimp only
  rw [Nat.mul_assoc, nearest_mul hk]

/-- Equal quotients have the same nearest rank. -/
lemma nearestRank_congr {num den num' den' : Nat} (hden : 0 < den) (hden' : 0 < den')
    (h : num * den' = num' * den) : nearestRank num den = nearestRank num' den' := by
  calc nearestRank num den
      = nearestRank (den' * num) (den' * den) := (nearestRank_mul hden' num den).symm
    _ = nearestRank (den * num') (den * den') := by
        rw [Nat.mul_comm den' num, h, Nat.mul_comm num' den, Nat.mul_comm den' den]
    _ = nearestRank num' den' := nearestRank_mul hden num' den'

lemma nearest_of_dvd (n : Nat) {den : Nat} (hden : 0 < den) : nearest (n * den) den = n := by
  unfold nearest
  rw [Nat.mul_div_cancel n hden, Nat.mul_mod_left]
  exact if_pos (Or.inl (by omega))

lemma nearestRank_zero (den : Nat) (hden : 0 < den) : nearestRank 0 den = 0 := by
  have hzero : nearest (0 * den) den = 0 := nearest_of_dvd 0 hden
  rw [nearestRank, Nat.zero_div, Nat.log2_zero]
  simpa using hzero

/-- What is less than half of the least unit is rounded to nothing. -/
lemma nearestRank_of_lt {num den : Nat} (h : 2 * num < den) : nearestRank num den = 0 := by
  have hquotient : num / den = 0 := Nat.div_eq_of_lt (by omega)
  have hnearest : nearest num den = 0 := by
    unfold nearest
    rw [hquotient, Nat.mod_eq_of_lt (by omega)]
    exact if_pos (Or.inl h)
  rw [nearestRank, hquotient, Nat.log2_zero]
  simpa using hnearest

/-! ## Magnitudes -/

/-- Below the first binade a magnitude is its rank. -/
lemma units_of_lt {rank : Nat} (h : rank < Nat.pow 2 52) : units rank = rank := by
  simp [units, significand, binade, Nat.div_eq_of_lt h]

lemma binade_mul_le (rank : Nat) : binade rank * Nat.pow 2 52 ≤ rank :=
  (Nat.mul_le_mul_right _ (Nat.sub_le _ 1)).trans (Nat.div_mul_le_self rank _)

lemma significand_bounds {rank : Nat} (h : Nat.pow 2 52 ≤ rank) :
    Nat.pow 2 52 ≤ significand rank ∧ significand rank < 2 * Nat.pow 2 52 := by
  have hsplit := Nat.div_add_mod rank (Nat.pow 2 52)
  have hrest := Nat.mod_lt rank (pow_pos_of_pos (by decide : 0 < 2) 52)
  have hquotient : 0 < rank / Nat.pow 2 52 :=
    Nat.div_pos h (pow_pos_of_pos (by decide) 52)
  unfold significand binade
  generalize Nat.pow 2 52 = unit at *
  obtain ⟨q, hq⟩ := Nat.exists_eq_succ_of_ne_zero hquotient.ne'
  rw [hq] at hsplit ⊢
  rw [Nat.succ_sub_one, Nat.mul_comm q unit]
  rw [Nat.mul_succ] at hsplit
  omega

lemma log2_units {rank : Nat} (h : Nat.pow 2 52 ≤ rank) :
    (units rank).log2 = 52 + binade rank := by
  obtain ⟨hlow, hhigh⟩ := significand_bounds h
  have hdouble : 2 * Nat.pow 2 52 = 2 ^ 53 := by norm_num
  rw [hdouble] at hhigh
  have hlow' := Nat.mul_le_mul_right (2 ^ binade rank) hlow
  have hhigh' := Nat.mul_lt_mul_of_pos_right hhigh (Nat.two_pow_pos (binade rank))
  change 2 ^ 52 * 2 ^ binade rank ≤ units rank at hlow'
  change units rank < _ at hhigh'
  rw [← Nat.pow_add] at hlow' hhigh'
  have hpos : units rank ≠ 0 := (Nat.lt_of_lt_of_le (Nat.two_pow_pos _) hlow').ne'
  have hexponent : 52 + binade rank + 1 = 53 + binade rank := by omega
  apply (Nat.log2_eq_iff hpos).mpr
  rw [hexponent]
  exact ⟨hlow', hhigh'⟩

/-- A magnitude has its own rank as the nearest. -/
theorem nearestRank_units (rank : Nat) : nearestRank (units rank) 1 = rank := by
  unfold nearestRank
  rw [Nat.div_one]
  by_cases h : rank < Nat.pow 2 52
  · have hdoublings : rank.log2 - 52 = 0 := by
      by_cases hzero : rank = 0
      · rw [hzero, Nat.log2_zero]
      · have := (Nat.log2_lt hzero).mpr h
        omega
    rw [units_of_lt h, hdoublings]
    have hnearest := nearest_of_dvd rank Nat.one_pos
    rw [Nat.mul_one] at hnearest
    simpa using hnearest
  · have hlow : Nat.pow 2 52 ≤ rank := Nat.le_of_not_lt h
    have hdoublings : (units rank).log2 - 52 = binade rank := by
      rw [log2_units hlow]
      omega
    have hnearest : nearest (units rank) (1 * Nat.pow 2 (binade rank)) = significand rank := by
      rw [Nat.one_mul]
      exact nearest_of_dvd _ (pow_pos_of_pos (by decide) _)
    have hbinade := binade_mul_le rank
    rw [hdoublings]
    dsimp only
    rw [hnearest, significand]
    omega

/-! ## Decimals -/

/-- The rank nearest to the decimal `digits * 10 ^ exponent`. -/
def decimalRank (digits : Nat) : Int → Nat
  | .ofNat e => nearestRank (digits * Nat.pow 10 e * Nat.pow 2 1074) 1
  | .negSucc e => nearestRank (digits * Nat.pow 2 1074) (Nat.pow 10 (e + 1))

lemma two_pow_le_ten_pow (n : Nat) : 2 ^ n ≤ 10 ^ (n * 28 / 93 + 1) := by
  rw [← Nat.pow_le_pow_iff_left (by decide : 93 ≠ 0)]
  have hstep : 2 ^ 93 ≤ 10 ^ 28 := by decide
  calc (2 ^ n) ^ 93
      = (2 ^ 93) ^ n := Nat.pow_right_comm 2 n 93
    _ ≤ (10 ^ 28) ^ n := Nat.pow_le_pow_left hstep n
    _ = 10 ^ (28 * n) := (Nat.pow_mul 10 28 n).symm
    _ ≤ 10 ^ ((n * 28 / 93 + 1) * 93) := Nat.pow_le_pow_right (by decide) (by omega)
    _ = (10 ^ (n * 28 / 93 + 1)) ^ 93 := Nat.pow_mul 10 _ 93

lemma two_pow_le_ten_pow_of_le {n m : Nat} (h : n * 28 / 93 + 1 ≤ m) : 2 ^ n ≤ 10 ^ m :=
  (two_pow_le_ten_pow n).trans (Nat.pow_le_pow_right (by decide) h)

lemma le_nearestRank_one {number d : Nat} (h : 2 ^ (d + 52) ≤ number) :
    d * Nat.pow 2 52 ≤ nearestRank number 1 := by
  have hpos : number ≠ 0 := (Nat.lt_of_lt_of_le (Nat.two_pow_pos _) h).ne'
  have hlog := (Nat.le_log2 hpos).mpr h
  unfold nearestRank
  rw [Nat.div_one]
  exact (Nat.mul_le_mul_right _ (by omega)).trans (Nat.le_add_right _ _)

/-- A decimal with an exponent this large is larger than all finite magnitudes. -/
lemma magnitudes_le_decimalRank {digits e : Nat} (hdigits : digits ≠ 0) (he : 310 < e) :
    magnitudes ≤ decimalRank digits (.ofNat e) := by
  apply le_nearestRank_one
  simp only [Nat.pow_eq]
  generalize hunit : 1074 = unit
  have hsplit : 2047 + 52 = 2099 - unit + unit := by omega
  rw [hsplit, Nat.pow_add]
  calc 2 ^ (2099 - unit) * 2 ^ unit
      ≤ 10 ^ e * 2 ^ unit := Nat.mul_le_mul_right _ (two_pow_le_ten_pow_of_le (by omega))
    _ ≤ digits * 10 ^ e * 2 ^ unit :=
        Nat.mul_le_mul_right _ (Nat.le_mul_of_pos_left _ (Nat.pos_of_ne_zero hdigits))

/-- A decimal this small is less than half of the least unit. -/
lemma decimalRank_of_small {digits : Nat} {exponent : Int}
    (h : exponent + (digits.log2 + 1) * 31 / 100 < -330) : decimalRank digits exponent = 0 := by
  cases exponent with
  | ofNat e =>
    have he : (0 : Int) ≤ Int.ofNat e := Int.natCast_nonneg e
    omega
  | negSucc e =>
    have he : Int.negSucc e = -((e : Int) + 1) := rfl
    rw [he] at h
    apply nearestRank_of_lt
    simp only [Nat.pow_eq]
    generalize hunit : 1074 = unit
    have hdouble : 2 * (digits * 2 ^ unit) = digits * 2 ^ (unit + 1) := by
      rw [Nat.pow_succ]
      ring
    have hdigits : digits < 2 ^ (digits.log2 + 1) := Nat.lt_log2_self
    rw [hdouble]
    calc digits * 2 ^ (unit + 1)
        < 2 ^ (digits.log2 + 1) * 2 ^ (unit + 1) :=
          Nat.mul_lt_mul_of_pos_right hdigits (Nat.two_pow_pos _)
      _ = 2 ^ (digits.log2 + 1 + (unit + 1)) := (Nat.pow_add 2 _ _).symm
      _ ≤ 10 ^ (e + 1) := two_pow_le_ten_pow_of_le (by omega)

lemma decimalRank_zero (exponent : Int) : decimalRank 0 exponent = 0 := by
  cases exponent with
  | ofNat e =>
    dsimp only [decimalRank]
    generalize Nat.pow 2 1074 = unit
    rw [Nat.zero_mul, Nat.zero_mul, nearestRank_zero 1 Nat.one_pos]
  | negSucc e =>
    dsimp only [decimalRank]
    generalize Nat.pow 2 1074 = unit
    rw [Nat.zero_mul, nearestRank_zero _ (pow_pos_of_pos (by decide) _)]

/-- Every decimal is rounded to the nearest number, also where no power is raised for it. -/
theorem ofDecimal_eq (negative : Bool) (digits : Nat) (exponent : Int) :
    ofDecimal negative digits exponent = ofRank negative (decimalRank digits exponent) := by
  unfold ofDecimal
  split
  · next hzero => rw [hzero, decimalRank_zero]
  · next hdigits =>
    split
    · next hlarge =>
      cases exponent with
      | negSucc e => omega
      | ofNat e =>
        have hrank := magnitudes_le_decimalRank hdigits (Int.ofNat_lt.mp hlarge)
        rw [ofRank, dif_neg (Nat.not_lt.mpr hrank)]
    · split
      · next hsmall => rw [decimalRank_of_small hsmall]
      · cases exponent <;> rfl

/-- A decimal with a zero behind its point. -/
lemma decimalRank_tenth (digits e : Nat) :
    decimalRank (digits * 10 ^ (e + 1)) (-1) = decimalRank digits e := by
  change nearestRank _ (Nat.pow 10 (0 + 1)) = nearestRank _ 1
  apply nearestRank_congr (pow_pos_of_pos (by decide) _) Nat.one_pos
  simp only [Nat.pow_eq]
  generalize 1074 = unit
  ring

lemma rankOfDecimal_eq (digits grid : Nat) :
    rankOfDecimal digits grid = decimalRank digits ((grid : Int) - 1074) := by
  have hten (n : Nat) : 0 < Nat.pow 10 n := pow_pos_of_pos (by decide) n
  unfold rankOfDecimal
  by_cases h : 1074 ≤ grid
  · obtain ⟨e, rfl⟩ := Nat.exists_eq_add_of_le h
    have he : ((1074 + e : Nat) : Int) - 1074 = Int.ofNat e := by
      rw [Int.ofNat_eq_natCast]
      omega
    rw [he]
    apply nearestRank_congr (hten _) Nat.one_pos
    simp only [Nat.pow_eq]
    generalize 1074 = unit
    ring
  · obtain ⟨e, he⟩ := Nat.exists_eq_add_of_lt (Nat.lt_of_not_le h)
    have hexponent : (grid : Int) - 1074 = Int.negSucc e := by
      rw [Int.negSucc_eq]
      omega
    rw [hexponent]
    apply nearestRank_congr (hten _) (hten _)
    simp only [Nat.pow_eq]
    generalize 1074 = unit at he ⊢
    subst he
    ring

/-! ## Shortest decimals -/

/-- On the finest grid every magnitude is a point. -/
lemma rankOfDecimal_units (rank : Nat) : rankOfDecimal (units rank * Nat.pow 5 1074) 0 = rank := by
  rw [← nearestRank_units rank]
  unfold rankOfDecimal
  apply nearestRank_congr (pow_pos_of_pos (by decide) _) Nat.one_pos
  rw [nearestRank_units]
  generalize 1074 = unit
  simp only [Nat.pow_eq, Nat.mul_one, Nat.pow_zero]
  rw [Nat.mul_assoc, ← Nat.mul_pow]

lemma rankOfDecimal_of_onGrid? {rank grid digits : Nat} (h : onGrid? rank grid = some digits) :
    rankOfDecimal digits grid = rank := by
  unfold onGrid? at h
  generalize units rank * Nat.pow 5 1074 = magnitude at h
  have hreads := List.find?_some h
  exact beq_iff_eq.mp hreads

/-- What a search comes to is as good as the points that it takes. -/
lemma searchBelow_induction {p : Nat → Nat → Prop} {point? : Nat → Option Nat} {finest : Nat}
    (hfinest : p finest 0) (hpoint : ∀ {grid digits}, point? grid = some digits → p digits grid)
    (grid : Nat) : p (searchBelow point? finest grid).1 (searchBelow point? finest grid).2 := by
  induction grid with
  | zero => exact hfinest
  | succ grid ih =>
    rw [searchBelow]
    split
    · next digits hfound => exact hpoint hfound
    · exact ih

/-- The shortest decimal of a magnitude is rounded to the magnitude. -/
theorem decimalRank_shortest (rank : Nat) :
    decimalRank (shortest rank).1 (((shortest rank).2 : Int) - 1074) = rank := by
  rw [← rankOfDecimal_eq, shortest]
  exact searchBelow_induction (p := fun digits grid => rankOfDecimal digits grid = rank)
    (rankOfDecimal_units rank) rankOfDecimal_of_onGrid? _

lemma shortest_ne_zero {rank : Nat} (h : rank ≠ 0) : (shortest rank).1 ≠ 0 := by
  intro hzero
  have hrank := decimalRank_shortest rank
  rw [hzero, decimalRank_zero] at hrank
  exact h hrank.symm

lemma ofRank_val (negative : Bool) (rank : Fin magnitudes) :
    ofRank negative rank = finite negative rank :=
  dif_pos rank.isLt

end DotBinding.Binary64

import DotBinding.Json.Writer
import DotBinding.Proofs.Binary64.Rounding
import DotBinding.Proofs.Json.Scalars

/-!
# Numerals in JSON

A numeral that is written without zeros in front is read back with all its parts. What is written
for a number that is finite is such a numeral in all of its forms, positional or with an exponent,
and it stands for the very number: a float by its shortest decimal, a whole number by its digits.
-/

namespace DotBinding.Json

open Binary64 (decimalRank signed)

/-! ## Digits -/

/-- Whether these are digits without zeros in front. -/
structure Significant (digits : List Char) : Prop where
  ne_nil : digits ≠ []
  isDigit : ∀ d ∈ digits, d.isDigit = true
  head : digits.head? ≠ some '0'

namespace Significant

variable {digits : List Char}

lemma append (h : Significant digits) {more : List Char} (hmore : ∀ d ∈ more, d.isDigit = true) :
    Significant (digits ++ more) where
  ne_nil := List.append_ne_nil_of_left_ne_nil h.ne_nil more
  isDigit := List.forall_mem_append.mpr ⟨h.isDigit, hmore⟩
  head := by
    obtain ⟨d, rest, rfl⟩ := List.exists_cons_of_ne_nil h.ne_nil
    exact h.head

lemma take (h : Significant digits) {n : Nat} (hn : n ≠ 0) : Significant (digits.take n) where
  ne_nil := by simpa [hn] using h.ne_nil
  isDigit := fun d hd => h.isDigit d (List.mem_of_mem_take hd)
  head := by
    rw [List.head?_take, if_neg hn]
    exact h.head

end Significant

lemma digitChar_ne_zero {n : Nat} (hpos : n ≠ 0) (hlt : n < 10) : n.digitChar ≠ '0' := by
  revert hpos
  revert n
  decide

lemma significant_toDigits {n : Nat} (hn : n ≠ 0) : Significant (Nat.toDigits 10 n) where
  ne_nil := Nat.toDigits_ne_nil
  isDigit := fun _ hd => Nat.isDigit_of_mem_toDigits (by decide) (by decide) hd
  head := by
    induction n using Nat.strong_induction_on with
    | _ n ih =>
      rw [Nat.toDigits_eq_if (by decide)]
      split
      · next hlt => simpa using digitChar_ne_zero hn hlt
      · next hlarge =>
        have hfront := ih (n / 10) (by omega) (by omega)
        obtain ⟨d, rest, hdigits⟩ :=
          List.exists_cons_of_ne_nil (Nat.toDigits_ne_nil (n := n / 10) (b := 10))
        rw [hdigits] at hfront ⊢
        exact hfront

/-! ## Parts of numerals -/

namespace Numeral

/-- What an exponent is written with. -/
def exponentPart : Option (Option Char × List Char) → List Char
  | some (sign, digits) => 'e' :: (sign.toList ++ digits)
  | none => []

/-- The text of a numeral. -/
def written (n : Numeral) : List Char :=
  n.whole ++ (pointed n.fraction ++ exponentPart n.exponent?)

/-- Whether each part of a numeral has the form that it may have. -/
structure Proper (n : Numeral) : Prop where
  whole : n.whole = ['0'] ∨ Significant n.whole
  fraction : ∀ d ∈ n.fraction, d.isDigit = true
  exponent : ∀ {sign digits}, n.exponent? = some (sign, digits) →
    sign ∈ [none, some '-', some '+'] ∧ digits ≠ [] ∧ ∀ d ∈ digits, d.isDigit = true

variable {n : Numeral}

lemma takeWhile_isDigit_append {digits more : List Char} (h : ∀ d ∈ digits, d.isDigit = true)
    (hmore : more.takeWhile Char.isDigit = []) :
    (digits ++ more).takeWhile Char.isDigit = digits := by
  rw [List.takeWhile_append_of_pos h, hmore, List.append_nil]

lemma takeWhile_exponentPart (e : Option (Option Char × List Char)) :
    (exponentPart e).takeWhile Char.isDigit = [] := by
  cases e <;> rfl

lemma takeWhile_pointed_append (fraction : List Char) (e : Option (Option Char × List Char)) :
    (pointed fraction ++ exponentPart e).takeWhile Char.isDigit = [] := by
  cases fraction with
  | nil => exact takeWhile_exponentPart e
  | cons d rest => rfl

lemma wholeOf_append {whole more : List Char} (h : whole = ['0'] ∨ Significant whole)
    (hmore : more.takeWhile Char.isDigit = []) : wholeOf (whole ++ more) = whole := by
  rcases h with rfl | h
  · rfl
  · obtain ⟨d, rest, rfl⟩ := List.exists_cons_of_ne_nil h.ne_nil
    have hd : d ≠ '0' := by simpa using h.head
    rw [List.cons_append, wholeOf_eq_takeWhile hd, ← List.cons_append]
    exact takeWhile_isDigit_append h.isDigit hmore

lemma fractionOf_pointed_append {fraction : List Char} (h : ∀ d ∈ fraction, d.isDigit = true)
    (e : Option (Option Char × List Char)) :
    fractionOf (pointed fraction ++ exponentPart e) = fraction := by
  cases fraction with
  | nil => cases e <;> rfl
  | cons d rest => exact takeWhile_isDigit_append h (takeWhile_exponentPart e)

lemma signOf_append {sign : Option Char} {digits : List Char}
    (hsign : sign ∈ [none, some '-', some '+']) (h : ∀ d ∈ digits, d.isDigit = true) :
    signOf (sign.toList ++ digits) = sign := by
  simp only [List.mem_cons, List.not_mem_nil, or_false] at hsign
  rcases hsign with rfl | rfl | rfl
  · cases digits with
    | nil => rfl
    | cons d rest =>
      have hd := h d List.mem_cons_self
      rw [Option.toList_none, List.nil_append, signOf_cons, if_neg (by rintro rfl; cases hd),
        if_neg (by rintro rfl; cases hd)]
  · rfl
  · rfl

lemma exponentOf_exponentPart (h : n.Proper) :
    exponentOf (exponentPart n.exponent?) = n.exponent? := by
  cases hexponent : n.exponent? with
  | none => rfl
  | some e =>
    obtain ⟨sign, digits⟩ := e
    obtain ⟨hsign, hne, hdigits⟩ := h.exponent hexponent
    have hrest : exponentDigits (sign.toList ++ digits) = digits := by
      rw [exponentDigits, signOf_append hsign hdigits, List.drop_left]
      exact List.takeWhile_eq_self_iff.mpr hdigits
    rw [exponentPart, exponentOf_cons, hrest, signOf_append hsign hdigits,
      if_pos ⟨Or.inl rfl, hne⟩]

/-- A numeral is read back with all its parts. -/
lemma read?_written (h : n.Proper) : read? n.written = some n := by
  have hwhole : wholeOf n.written = n.whole :=
    wholeOf_append h.whole (takeWhile_pointed_append n.fraction n.exponent?)
  have hne : n.whole ≠ [] := by
    rcases h.whole with hzero | hdigits
    · simp [hzero]
    · exact hdigits.ne_nil
  rw [read?_eq, hwhole, if_neg hne]
  simp only [written, List.drop_left]
  rw [fractionOf_pointed_append h.fraction, List.drop_left, exponentOf_exponentPart h]

lemma length_written (n : Numeral) : n.written.length = n.length := by
  rw [length_eq, written, List.length_append, List.length_append, Nat.add_assoc]
  cases n.exponent? with
  | none => rfl
  | some e =>
    simp only [exponentPart, Option.elim_some, List.length_cons, List.length_append]
    omega

lemma isDigit_of_mem_whole (h : n.Proper) : ∀ d ∈ n.whole, d.isDigit = true := by
  rcases h.whole with hzero | hdigits
  · rw [hzero]
    exact List.forall_mem_singleton.mpr rfl
  · exact hdigits.isDigit

lemma isScalarPart_of_mem_written (h : n.Proper) : ∀ d ∈ n.written, isScalarPart d = true := by
  have hexponent : ∀ d ∈ exponentPart n.exponent?, isScalarPart d = true := by
    cases hpart : n.exponent? with
    | none => simp [exponentPart]
    | some e =>
      obtain ⟨sign, digits⟩ := e
      obtain ⟨hsign, -, hdigits⟩ := h.exponent hpart
      have hsigned : ∀ d ∈ sign.toList, isScalarPart d = true := by
        simp only [List.mem_cons, List.not_mem_nil, or_false] at hsign
        rcases hsign with rfl | rfl | rfl
        · exact List.forall_mem_nil _
        · exact List.forall_mem_singleton.mpr rfl
        · exact List.forall_mem_singleton.mpr rfl
      refine List.forall_mem_cons.mpr ⟨rfl, List.forall_mem_append.mpr ⟨hsigned, ?_⟩⟩
      exact fun d hd => isScalarPart_of_isDigit (hdigits d hd)
  refine List.forall_mem_append.mpr ⟨?_, List.forall_mem_append.mpr ⟨?_, hexponent⟩⟩
  · exact fun d hd => isScalarPart_of_isDigit (isDigit_of_mem_whole h d hd)
  · exact isScalarPart_of_mem_pointed h.fraction

/-- A numeral starts with a digit. -/
lemma exists_written_eq_cons (h : n.Proper) :
    ∃ d rest, n.written = d :: rest ∧ d.isDigit = true := by
  cases hwhole : n.whole with
  | nil =>
    rcases h.whole with hzero | hdigits
    · cases hwhole.symm.trans hzero
    · exact absurd hwhole hdigits.ne_nil
  | cons d more =>
    refine ⟨d, more ++ (pointed n.fraction ++ exponentPart n.exponent?), ?_, ?_⟩
    · rw [written, hwhole, List.cons_append]
    · exact isDigit_of_mem_whole h d (by rw [hwhole]; exact List.mem_cons_self)

/-! ## Whole numbers -/

/-- The numeral of a whole number. -/
def ofNat (m : Nat) : Numeral :=
  ⟨Nat.toDigits 10 m, [], none⟩

lemma written_ofNat (m : Nat) : (ofNat m).written = Nat.toDigits 10 m :=
  List.append_nil _

lemma proper_ofNat (m : Nat) : (ofNat m).Proper where
  whole := by
    by_cases hm : m = 0
    · subst hm
      exact Or.inl rfl
    · exact Or.inr (significant_toDigits hm)
  fraction := by simp [ofNat]
  exponent := by simp [ofNat]

lemma value_ofNat (negative : Bool) (m : Nat) :
    (ofNat m).value negative =
      if digitLimit < (Nat.toDigits 10 m).length then
        .error (.hugeNumber (Nat.toDigits 10 m).length)
      else .ok (.int (if negative then -(m : Int) else m)) := by
  simp [ofNat, value, Nat.ofDigitChars_ten_toDigits]

/-! ## Decimals -/

/-- The rank of the magnitude that is nearest to the decimal. -/
def rank (n : Numeral) : Nat :=
  decimalRank (Nat.ofDigitChars 10 (n.whole ++ n.fraction) 0) (n.exponent - n.fraction.length)

/-- Whether a text is a numeral with a fraction or an exponent that comes to a rank. -/
def WritesRank (cs : List Char) (rank : Nat) : Prop :=
  ∃ n : Numeral, n.Proper ∧ n.written = cs ∧ (n.fraction ≠ [] ∨ n.exponent? ≠ none) ∧
    n.rank = rank

lemma value_of_decimal (h : n.fraction ≠ [] ∨ n.exponent? ≠ none) (negative : Bool) :
    n.value negative = .ok (.float (.ofRank negative n.rank)) := by
  unfold value
  rw [if_neg, Binary64.ofDecimal_eq, rank]
  rw [Bool.and_eq_true, List.isEmpty_iff, Option.isNone_iff_eq_none]
  rintro ⟨hfraction, hexponent⟩
  exact h.elim (absurd hfraction) (absurd hexponent)

lemma writesRank_pointed {whole fraction : List Char} (hwhole : whole = ['0'] ∨ Significant whole)
    (hfraction : ∀ d ∈ fraction, d.isDigit = true) (hne : fraction ≠ []) :
    WritesRank (whole ++ '.' :: fraction)
      (decimalRank (Nat.ofDigitChars 10 (whole ++ fraction) 0) (-fraction.length)) := by
  refine ⟨⟨whole, fraction, none⟩, ⟨hwhole, hfraction, by simp⟩, ?_, Or.inl hne, ?_⟩
  · simp [written, pointed, exponentPart, hne]
  · rw [rank, exponent, Int.zero_sub]

lemma isDigit_of_mem_zeros {k : Nat} : ∀ d ∈ List.replicate k '0', d.isDigit = true := by
  intro d hd
  rw [List.eq_of_mem_replicate hd]
  rfl

lemma isDigit_of_mem_zero : ∀ d ∈ ['0'], d.isDigit = true :=
  List.forall_mem_singleton.mpr rfl

variable {digits : List Char}

/-- The three positional forms come to the digits with the point where it is put. -/
lemma writesRank_positional (h : Significant digits) (point : Int) :
    WritesRank (Binary64.positional digits point)
      (decimalRank (Nat.ofDigitChars 10 digits 0) (point - digits.length)) := by
  unfold Binary64.positional
  split
  · next hfront =>
    have hdigits : ∀ d ∈ List.replicate (-point).toNat '0' ++ digits, d.isDigit = true :=
      List.forall_mem_append.mpr ⟨isDigit_of_mem_zeros, h.isDigit⟩
    have hwrites := writesRank_pointed (Or.inl rfl) hdigits (by simp [h.ne_nil])
    have hnumber : Nat.ofDigitChars 10 (['0'] ++ (List.replicate (-point).toNat '0' ++ digits)) 0 =
        Nat.ofDigitChars 10 digits 0 := by
      rw [Nat.ofDigitChars_append, Nat.ofDigitChars_append, Nat.ofDigitChars_replicate_zero]
      simp [Nat.ofDigitChars_cons]
    have hexponent : -((List.replicate (-point).toNat '0' ++ digits).length : Int) =
        point - digits.length := by
      rw [List.length_append, List.length_replicate]
      omega
    rwa [hnumber, hexponent] at hwrites
  split
  · next hpoint hbehind =>
    -- with the zero behind the point the number is written in tenths
    obtain ⟨z, hz⟩ := Nat.exists_eq_add_of_le hbehind
    have hpadding : point.toNat - digits.length = z := by omega
    have hnumber : Nat.ofDigitChars 10 (digits ++ List.replicate z '0' ++ ['0']) 0 =
        Nat.ofDigitChars 10 digits 0 * 10 ^ (z + 1) := by
      rw [Nat.ofDigitChars_append, Nat.ofDigitChars_append, Nat.ofDigitChars_replicate_zero]
      simp only [Nat.ofDigitChars_cons, Nat.ofDigitChars_nil, Nat.sub_self, Nat.add_zero,
        Nat.pow_succ]
      ring
    have hexponent : (z : Int) = point - digits.length := by omega
    have hwrites := writesRank_pointed (Or.inr (h.append (isDigit_of_mem_zeros (k := z))))
      isDigit_of_mem_zero (List.cons_ne_nil '0' [])
    rw [hnumber, List.length_singleton] at hwrites
    rw [hpadding, ← hexponent, ← Binary64.decimalRank_tenth]
    exact hwrites
  · next hpoint hinside =>
    have hwhole := h.take (n := point.toNat) (by omega)
    have hrest : ∀ d ∈ digits.drop point.toNat, d.isDigit = true :=
      fun d hd => h.isDigit d (List.mem_of_mem_drop hd)
    have hwrites := writesRank_pointed (Or.inr hwhole) hrest (by simpa using hinside)
    have hexponent : -((digits.drop point.toNat).length : Int) = point - digits.length := by
      rw [List.length_drop]
      omega
    rwa [List.take_append_drop, hexponent] at hwrites

/-- The numeral with one digit in front of its point and an exponent for the others. -/
def scientific (digits : List Char) (point : Int) : Numeral :=
  let exponent := Nat.toDigits 10 (point - 1).natAbs
  ⟨digits.take 1, digits.drop 1, some (some (if point - 1 < 0 then '-' else '+'),
    List.replicate (2 - exponent.length) '0' ++ exponent)⟩

lemma written_scientific (h : Significant digits) (point : Int) :
    (scientific digits point).written = Binary64.scientific digits point := by
  obtain ⟨d, rest, rfl⟩ := List.exists_cons_of_ne_nil h.ne_nil
  cases rest with
  | nil => rfl
  | cons e more =>
    rw [Binary64.scientific, if_neg (by simp), List.append_assoc]
    rfl

lemma proper_scientific (h : Significant digits) (point : Int) :
    (scientific digits point).Proper where
  whole := Or.inr (h.take (by decide))
  fraction := fun d hd => h.isDigit d (List.mem_of_mem_drop hd)
  exponent := by
    rintro sign exponent heq
    obtain ⟨rfl, rfl⟩ := Prod.mk.inj (Option.some.inj heq)
    refine ⟨by split <;> simp, List.append_ne_nil_of_right_ne_nil _ Nat.toDigits_ne_nil, ?_⟩
    refine List.forall_mem_append.mpr ⟨isDigit_of_mem_zeros, ?_⟩
    exact fun d hd => Nat.isDigit_of_mem_toDigits (by decide) (by decide) hd

lemma exponent_scientific (digits : List Char) (point : Int) :
    (scientific digits point).exponent = point - 1 := by
  have hdigits : Nat.ofDigitChars 10 (List.replicate
      (2 - (Nat.toDigits 10 (point - 1).natAbs).length) '0' ++
        Nat.toDigits 10 (point - 1).natAbs) 0 = (point - 1).natAbs := by
    rw [Nat.ofDigitChars_append, Nat.ofDigitChars_replicate_zero, Nat.mul_zero,
      Nat.ofDigitChars_ten_toDigits]
  unfold scientific
  by_cases hsign : point - 1 < 0
  · rw [if_pos hsign]
    change -((Nat.ofDigitChars 10 _ 0 : Nat) : Int) = _
    rw [hdigits]
    omega
  · rw [if_neg hsign]
    change ((Nat.ofDigitChars 10 _ 0 : Nat) : Int) = _
    rw [hdigits]
    omega

lemma writesRank_scientific (h : Significant digits) (point : Int) :
    WritesRank (Binary64.scientific digits point)
      (decimalRank (Nat.ofDigitChars 10 digits 0) (point - digits.length)) := by
  refine ⟨scientific digits point, proper_scientific h point, written_scientific h point,
    Or.inr (by simp [scientific]), ?_⟩
  have hlength : digits.length ≠ 0 := by simpa using h.ne_nil
  have hexponent : point - 1 - ((digits.drop 1).length : Int) = point - digits.length := by
    rw [List.length_drop]
    omega
  rw [rank, exponent_scientific]
  change decimalRank (Nat.ofDigitChars 10 (digits.take 1 ++ digits.drop 1) 0)
    (point - 1 - (digits.drop 1).length) = _
  rw [List.take_append_drop, hexponent]

theorem writesRank_magnitudeText (rank : Nat) : WritesRank (Binary64.magnitudeText rank) rank := by
  unfold Binary64.magnitudeText
  split
  · next hzero =>
    subst hzero
    have hwrites := writesRank_pointed (Or.inl rfl) isDigit_of_mem_zero (List.cons_ne_nil '0' [])
    have hnumber : Nat.ofDigitChars 10 (['0'] ++ ['0']) 0 = 0 := by decide
    rwa [hnumber, Binary64.decimalRank_zero] at hwrites
  · next hrank =>
    have hdigits := significant_toDigits (Binary64.shortest_ne_zero hrank)
    have hshortest := Binary64.decimalRank_shortest rank
    generalize Binary64.shortest rank = decimal at hdigits hshortest ⊢
    obtain ⟨number, grid⟩ := decimal
    dsimp only at hdigits hshortest ⊢
    have hpoint : ((Nat.toDigits 10 number).length : Int) + grid - 1074 -
        (Nat.toDigits 10 number).length = grid - 1074 := by omega
    split
    · have hwrites := writesRank_positional hdigits ((Nat.toDigits 10 number).length + grid - 1074)
      rwa [hpoint, Nat.ofDigitChars_ten_toDigits, hshortest] at hwrites
    · have hwrites := writesRank_scientific hdigits ((Nat.toDigits 10 number).length + grid - 1074)
      rwa [hpoint, Nat.ofDigitChars_ten_toDigits, hshortest] at hwrites

end Numeral

/-! ## Words and numbers -/

lemma scalarPart_append {cs more : List Char} (h : ∀ c ∈ cs, isScalarPart c = true)
    (hmore : scalarPart more = []) : scalarPart (cs ++ more) = cs := by
  rw [scalarPart, List.takeWhile_append_of_pos h, ← scalarPart, hmore, List.append_nil]

namespace Point

lemma not_isDigit_of_mem_words {w : List Char × Value} (h : w ∈ words) :
    ∃ a b more, w.1 = a :: b :: more ∧ a.isDigit = false ∧ b.isDigit = false := by
  simp only [words, List.mem_cons, List.not_mem_nil, or_false] at h
  rcases h with rfl | rfl | rfl | rfl | rfl | rfl <;> exact ⟨_, _, _, rfl, rfl, rfl⟩

/-- No word is the start of a number: its first two characters are no digits. -/
lemma find?_words_signed {n : Numeral} (h : n.Proper) (negative : Bool) :
    (words.find? fun w => w.1.isPrefixOf (signed negative n.written)) = none := by
  rw [List.find?_eq_none]
  rintro w hw hstarts
  obtain ⟨a, b, more, hword, ha, hb⟩ := not_isDigit_of_mem_words hw
  obtain ⟨d, rest, hwritten, hd⟩ := Numeral.exists_written_eq_cons h
  rw [List.isPrefixOf_iff_prefix, hword, hwritten] at hstarts
  cases negative with
  | false =>
    rw [(List.cons_prefix_cons.mp hstarts).1, hd] at ha
    cases ha
  | true =>
    rw [(List.cons_prefix_cons.mp (List.cons_prefix_cons.mp hstarts).2).1, hd] at hb
    cases hb

lemma isScalarPart_of_mem_signed {n : Numeral} (h : n.Proper) (negative : Bool) :
    ∀ d ∈ signed negative n.written, isScalarPart d = true := by
  cases negative with
  | false => exact Numeral.isScalarPart_of_mem_written h
  | true => exact List.forall_mem_cons.mpr ⟨rfl, Numeral.isScalarPart_of_mem_written h⟩

lemma signed_ne_nil {n : Numeral} (h : n.Proper) (negative : Bool) :
    signed negative n.written ≠ [] := by
  obtain ⟨d, rest, hwritten, -⟩ := Numeral.exists_written_eq_cons h
  cases negative <;> simp [signed, hwritten]

/-- A number is taken up to its end, if no more of the kind follows. -/
lemma takeScalar_signed {n : Numeral} (h : n.Proper) {negative : Bool} {c : Char}
    {rest : List Char} (hcs : signed negative n.written = c :: rest) (nest : Nest)
    {more : List Char} (hmore : scalarPart more = []) :
    takeScalar nest c (rest ++ more) =
      (n.value negative).map fun v => (behind v nest, rest.length) := by
  have hparts := isScalarPart_of_mem_signed h negative
  have hwords := find?_words_signed h negative
  rw [hcs] at hparts hwords
  -- what stands behind the number can be left out, and then nothing but the number is there
  rw [← takeScalar_scalarPart, scalarPart_append (List.forall_mem_cons.mp hparts).2 hmore,
    takeScalar, hwords]
  cases negative with
  | false =>
    have hwritten : n.written = c :: rest := hcs
    obtain ⟨d, rest', hd, hdigit⟩ := Numeral.exists_written_eq_cons h
    obtain ⟨rfl, rfl⟩ := List.cons.inj (hwritten.symm.trans hd)
    have hsign : (c == '-') = false := by
      rw [beq_eq_false_iff_ne]
      rintro rfl
      cases hdigit
    have hlength : n.length - 1 = rest.length := by
      rw [← Numeral.length_written, hwritten, List.length_cons, Nat.add_sub_cancel]
    simp only [hsign, Bool.false_eq_true, if_false, ← hwritten, Numeral.read?_written h, hlength]
  | true =>
    obtain ⟨rfl, rfl⟩ := List.cons.inj hcs
    simp only [beq_self_eq_true, if_true, Numeral.read?_written h, ← Numeral.length_written]

lemma takeScalar_word {c : Char} {rest : List Char} {v : Value} (h : (c :: rest, v) ∈ words)
    (nest : Nest) (more : List Char) :
    takeScalar nest c (rest ++ more) = .ok (behind v nest, rest.length) := by
  simp only [words, List.mem_cons, List.not_mem_nil, or_false, Prod.mk.injEq] at h
  rcases h with ⟨h, rfl⟩ | ⟨h, rfl⟩ | ⟨h, rfl⟩ | ⟨h, rfl⟩ | ⟨h, rfl⟩ | ⟨h, rfl⟩ <;>
    · obtain ⟨rfl, rfl⟩ := List.cons.inj h
      rfl

end Point

end DotBinding.Json

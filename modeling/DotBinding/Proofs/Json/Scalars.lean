import DotBinding.Json.Reader
import Mathlib.Data.List.Find
import Mathlib.Data.List.TakeWhile
import Mathlib.Tactic.Lemma

/-!
# Scalars in JSON

How far the reader looks for a word or a number: up to the first character that no word and no
number is written with. What stands behind that makes no difference.
-/

namespace DotBinding.Json

/-- Whether words and numbers are written with a character. -/
def isScalarPart (c : Char) : Bool :=
  c.isAlphanum || c == '.' || c == '+' || c == '-'

/-- What of a text can belong to a word or a number at its start. -/
def scalarPart (cs : List Char) : List Char :=
  cs.takeWhile isScalarPart

lemma isScalarPart_of_isDigit {c : Char} (h : c.isDigit = true) : isScalarPart c = true := by
  simp [isScalarPart, Char.isAlphanum, h]

lemma scalarPart_cons {c : Char} (h : isScalarPart c = true) (rest : List Char) :
    scalarPart (c :: rest) = c :: scalarPart rest :=
  List.takeWhile_cons_of_pos h

lemma scalarPart_cons_of_not {c : Char} (h : isScalarPart c ≠ true) (rest : List Char) :
    scalarPart (c :: rest) = [] :=
  List.takeWhile_cons_of_neg h

lemma scalarPart_idem (cs : List Char) : scalarPart (scalarPart cs) = scalarPart cs :=
  List.takeWhile_idem

lemma takeWhile_isDigit_scalarPart (cs : List Char) :
    (scalarPart cs).takeWhile Char.isDigit = cs.takeWhile Char.isDigit := by
  rw [scalarPart, List.takeWhile_takeWhile]
  congr 1
  funext c
  by_cases h : c.isDigit = true
  · simp [h, isScalarPart_of_isDigit h]
  · simp [h]

lemma drop_scalarPart {n : Nat} {cs : List Char} (h : ∀ c ∈ cs.take n, isScalarPart c = true) :
    (scalarPart cs).drop n = scalarPart (cs.drop n) := by
  induction n generalizing cs with
  | zero => rfl
  | succ n ih =>
    cases cs with
    | nil => rfl
    | cons c rest =>
      rw [List.take_succ_cons, List.forall_mem_cons] at h
      rw [scalarPart_cons h.1, List.drop_succ_cons, List.drop_succ_cons, ih h.2]

lemma drop_scalarPart_of_prefix {start cs : List Char} (h : start <+: cs)
    (hpart : ∀ c ∈ start, isScalarPart c = true) :
    (scalarPart cs).drop start.length = scalarPart (cs.drop start.length) := by
  apply drop_scalarPart
  rwa [← List.prefix_iff_eq_take.mp h]

namespace Numeral

/-! ## The parts of a numeral -/

lemma wholeOf_eq_takeWhile {c : Char} (h : c ≠ '0') (rest : List Char) :
    wholeOf (c :: rest) = (c :: rest).takeWhile Char.isDigit := by
  rw [wholeOf]
  rintro _ heq
  exact h (List.cons.inj heq).1

lemma wholeOf_starts (cs : List Char) :
    wholeOf cs <+: cs ∧ ∀ d ∈ wholeOf cs, d.isDigit = true := by
  unfold wholeOf
  split
  · exact ⟨⟨_, rfl⟩, List.forall_mem_singleton.mpr rfl⟩
  · exact ⟨List.takeWhile_prefix _, List.all_eq_true.mp List.all_takeWhile⟩

lemma wholeOf_scalarPart (cs : List Char) : wholeOf (scalarPart cs) = wholeOf cs := by
  cases cs with
  | nil => rfl
  | cons c rest =>
    by_cases hzero : c = '0'
    · subst hzero
      rfl
    · rw [wholeOf_eq_takeWhile hzero, ← takeWhile_isDigit_scalarPart]
      by_cases hpart : isScalarPart c = true
      · rw [scalarPart_cons hpart, wholeOf_eq_takeWhile hzero]
      · rw [scalarPart_cons_of_not hpart]
        rfl

/-- What a fraction is written with: nothing without digits, or else a point and the digits. -/
def pointed (fraction : List Char) : List Char :=
  if fraction.isEmpty then [] else '.' :: fraction

lemma isScalarPart_of_mem_pointed {fraction : List Char}
    (h : ∀ d ∈ fraction, d.isDigit = true) : ∀ d ∈ pointed fraction, isScalarPart d = true := by
  unfold pointed
  split
  · simp
  · exact List.forall_mem_cons.mpr ⟨rfl, fun d hd => isScalarPart_of_isDigit (h d hd)⟩

lemma fractionOf_cons_of_ne {c : Char} (h : c ≠ '.') (rest : List Char) :
    fractionOf (c :: rest) = [] := by
  rw [fractionOf]
  rintro _ heq
  exact h (List.cons.inj heq).1

lemma pointed_fractionOf_starts (cs : List Char) :
    pointed (fractionOf cs) <+: cs ∧ ∀ d ∈ fractionOf cs, d.isDigit = true := by
  unfold fractionOf
  split
  · refine ⟨?_, List.all_eq_true.mp List.all_takeWhile⟩
    unfold pointed
    split
    · exact List.nil_prefix
    · exact (List.prefix_cons_inj _).mpr (List.takeWhile_prefix _)
  · exact ⟨List.nil_prefix, by simp⟩

lemma fractionOf_scalarPart (cs : List Char) : fractionOf (scalarPart cs) = fractionOf cs := by
  cases cs with
  | nil => rfl
  | cons c rest =>
    by_cases hpoint : c = '.'
    · subst hpoint
      exact takeWhile_isDigit_scalarPart rest
    · rw [fractionOf_cons_of_ne hpoint]
      by_cases hpart : isScalarPart c = true
      · rw [scalarPart_cons hpart, fractionOf_cons_of_ne hpoint]
      · rw [scalarPart_cons_of_not hpart]
        rfl

lemma signOf_cons (c : Char) (rest : List Char) :
    signOf (c :: rest) = if c = '-' then some '-' else if c = '+' then some '+' else none := by
  unfold signOf
  split
  · next heq => rw [(List.cons.inj heq).1, if_pos rfl]
  · next heq => rw [(List.cons.inj heq).1, if_neg (by decide), if_pos rfl]
  · next hminus hplus =>
    rw [if_neg fun h => hminus rest (by rw [h]), if_neg fun h => hplus rest (by rw [h])]

lemma signOf_starts (cs : List Char) :
    (signOf cs).toList <+: cs ∧ ∀ c ∈ (signOf cs).toList, isScalarPart c = true := by
  unfold signOf
  split
  · exact ⟨⟨_, rfl⟩, List.forall_mem_singleton.mpr rfl⟩
  · exact ⟨⟨_, rfl⟩, List.forall_mem_singleton.mpr rfl⟩
  · exact ⟨List.nil_prefix, by simp⟩

lemma signOf_scalarPart (cs : List Char) : signOf (scalarPart cs) = signOf cs := by
  cases cs with
  | nil => rfl
  | cons c rest =>
    by_cases hpart : isScalarPart c = true
    · rw [scalarPart_cons hpart, signOf_cons, signOf_cons]
    · rw [scalarPart_cons_of_not hpart, signOf_cons, if_neg (by rintro rfl; exact hpart rfl),
        if_neg (by rintro rfl; exact hpart rfl)]
      rfl

/-- The digits of an exponent and what stands in front of them. -/
def exponentDigits (cs : List Char) : List Char :=
  (cs.drop (signOf cs).toList.length).takeWhile Char.isDigit

lemma exponentDigits_scalarPart (cs : List Char) :
    exponentDigits (scalarPart cs) = exponentDigits cs := by
  obtain ⟨hstarts, hpart⟩ := signOf_starts cs
  rw [exponentDigits, exponentDigits, signOf_scalarPart, drop_scalarPart_of_prefix hstarts hpart,
    takeWhile_isDigit_scalarPart]

lemma exponentOf_cons (c : Char) (rest : List Char) :
    exponentOf (c :: rest) =
      if (c = 'e' ∨ c = 'E') ∧ exponentDigits rest ≠ [] then
        some (signOf rest, exponentDigits rest)
      else none := by
  have hnamed : (rest.drop (signOf rest).toList.length).takeWhile Char.isDigit =
      exponentDigits rest := rfl
  rw [exponentOf]
  dsimp only
  rw [hnamed]
  by_cases hletter : c = 'e' ∨ c = 'E'
  · cases hdigits : exponentDigits rest with
    | nil => simp
    | cons d more => simp [hletter]
  · simp [hletter]

lemma exponentOf_scalarPart (cs : List Char) : exponentOf (scalarPart cs) = exponentOf cs := by
  cases cs with
  | nil => rfl
  | cons c rest =>
    by_cases hpart : isScalarPart c = true
    · rw [scalarPart_cons hpart, exponentOf_cons, exponentOf_cons, exponentDigits_scalarPart,
        signOf_scalarPart]
    · rw [scalarPart_cons_of_not hpart, exponentOf_cons, if_neg]
      · rfl
      · rintro ⟨rfl | rfl, -⟩ <;> exact hpart rfl

lemma length_of_exponentOf {cs : List Char} {e : Option Char × List Char}
    (h : exponentOf cs = some e) : 1 + e.1.toList.length + e.2.length ≤ cs.length := by
  cases cs with
  | nil => cases h
  | cons c rest =>
    rw [exponentOf_cons] at h
    split at h
    · obtain rfl := Option.some.inj h
      have hsign := (signOf_starts rest).1.length_le
      have hdigits := (List.takeWhile_prefix Char.isDigit
        (l := rest.drop (signOf rest).toList.length)).length_le
      rw [List.length_drop] at hdigits
      rw [List.length_cons]
      dsimp only [exponentDigits]
      omega
    · cases h

/-! ## Whole numerals -/

lemma read?_eq (cs : List Char) :
    read? cs =
      if wholeOf cs = [] then none
      else
        let behind := cs.drop (wholeOf cs).length
        some ⟨wholeOf cs, fractionOf behind,
          exponentOf (behind.drop (pointed (fractionOf behind)).length)⟩ := by
  unfold read?
  cases hwhole : wholeOf cs with
  | nil => rfl
  | cons d more =>
    rw [if_neg (by simp)]
    simp only [List.drop_drop, pointed]
    split
    · rfl
    · simp only [List.length_cons, Nat.add_assoc, Nat.add_comm 1]

/-- A numeral ends in front of what numbers are not written with. -/
lemma read?_scalarPart (cs : List Char) : read? (scalarPart cs) = read? cs := by
  obtain ⟨hwhole, hdigits⟩ := wholeOf_starts cs
  rw [read?_eq, read?_eq, wholeOf_scalarPart,
    drop_scalarPart_of_prefix hwhole fun d hd => isScalarPart_of_isDigit (hdigits d hd)]
  obtain ⟨hfraction, hdigits'⟩ := pointed_fractionOf_starts (cs.drop (wholeOf cs).length)
  simp only [fractionOf_scalarPart, exponentOf_scalarPart,
    drop_scalarPart_of_prefix hfraction (isScalarPart_of_mem_pointed hdigits')]

lemma length_eq (n : Numeral) :
    n.length = n.whole.length + (pointed n.fraction).length +
      n.exponent?.elim 0 fun e => 1 + e.1.toList.length + e.2.length := by
  rw [length, pointed]
  split <;> simp [Nat.add_comm]

lemma length_le_of_read? {cs : List Char} {n : Numeral} (h : read? cs = some n) :
    n.length ≤ cs.length := by
  rw [read?_eq] at h
  split at h
  · cases h
  · obtain rfl := Option.some.inj h
    rw [length_eq]
    have hwhole := (wholeOf_starts cs).1.length_le
    have hfraction := (pointed_fractionOf_starts (cs.drop (wholeOf cs).length)).1.length_le
    rw [List.length_drop] at hfraction
    dsimp only
    generalize hbehind : (cs.drop (wholeOf cs).length).drop _ = behind
    have hlength := congrArg List.length hbehind
    rw [List.length_drop, List.length_drop] at hlength
    cases hexponent : exponentOf behind with
    | none =>
      rw [Option.elim_none]
      omega
    | some e =>
      have := length_of_exponentOf hexponent
      rw [Option.elim_some]
      omega

end Numeral

/-! ## Words and numbers -/

lemma isPrefixOf_scalarPart {word : List Char} (h : ∀ d ∈ word, isScalarPart d = true)
    (cs : List Char) : word.isPrefixOf (scalarPart cs) = word.isPrefixOf cs := by
  induction word generalizing cs with
  | nil => rfl
  | cons d word ih =>
    obtain ⟨hd, hword⟩ := List.forall_mem_cons.mp h
    cases cs with
    | nil => rfl
    | cons c rest =>
      by_cases hpart : isScalarPart c = true
      · rw [scalarPart_cons hpart, List.isPrefixOf_cons_cons, List.isPrefixOf_cons_cons, ih hword]
      · have hother : (d == c) = false := by
          rw [beq_eq_false_iff_ne]
          rintro rfl
          exact hpart hd
        rw [scalarPart_cons_of_not hpart, List.isPrefixOf_cons_cons, hother]
        rfl

namespace Point

lemma isScalarPart_of_mem_words :
    ∀ w ∈ words, ∀ d ∈ w.1, isScalarPart d = true := by
  intro w hw
  have hall : (words.all fun w => w.1.all isScalarPart) = true := by decide +kernel
  exact List.all_eq_true.mp (List.all_eq_true.mp hall w hw)

/-- A scalar is taken from what words and numbers are written with, whatever stands behind. -/
lemma takeScalar_scalarPart (nest : Nest) (c : Char) (rest : List Char) :
    takeScalar nest c (scalarPart rest) = takeScalar nest c rest := by
  have hword : (words.find? fun w => w.1.isPrefixOf (c :: scalarPart rest)) =
      words.find? fun w => w.1.isPrefixOf (c :: rest) := by
    refine List.find?_congr fun w hw => ?_
    have hpart := isScalarPart_of_mem_words w hw
    cases hw : w.1 with
    | nil => rfl
    | cons d word =>
      rw [hw] at hpart
      rw [List.isPrefixOf_cons_cons, List.isPrefixOf_cons_cons,
        isPrefixOf_scalarPart (List.forall_mem_cons.mp hpart).2]
  have hnumeral : Numeral.read? (if c == '-' then scalarPart rest else c :: scalarPart rest) =
      Numeral.read? (if c == '-' then rest else c :: rest) := by
    split
    · exact Numeral.read?_scalarPart rest
    · rw [← Numeral.read?_scalarPart, ← Numeral.read?_scalarPart (c :: rest)]
      by_cases hpart : isScalarPart c = true
      · rw [scalarPart_cons hpart, scalarPart_cons hpart, scalarPart_idem]
      · rw [scalarPart_cons_of_not hpart, scalarPart_cons_of_not hpart]
  rw [takeScalar, takeScalar, hword]
  simp only [hnumeral]

lemma le_length_of_takeScalar {nest : Nest} {c : Char} {rest : List Char} {next : Point} {n : Nat}
    (h : takeScalar nest c rest = .ok (next, n)) : n ≤ rest.length := by
  unfold takeScalar at h
  split at h
  · next word v hword =>
    cases h
    have hstarts := List.find?_some hword
    have hlength : word.length ≤ _ := (List.isPrefixOf_iff_prefix.mp hstarts).length_le
    rw [List.length_cons] at hlength
    omega
  · dsimp only at h
    split at h
    · cases h
    · next m hread =>
      have hlength := Numeral.length_le_of_read? hread
      cases hvalue : m.value (c == '-') with
      | error e =>
        rw [hvalue] at h
        cases h
      | ok v =>
        rw [hvalue] at h
        obtain ⟨-, hn⟩ := Prod.mk.inj (Except.ok.inj h)
        subst hn
        split
        · next hminus => rwa [if_pos hminus] at hlength
        · next hminus =>
          rw [if_neg hminus, List.length_cons] at hlength
          omega

end Point

end DotBinding.Json

import DotBinding.Dot.Scanner
import Mathlib.Tactic.ByContra
import Mathlib.Tactic.Lemma

/-!
# What splitting a text finds

`Begins c rest l n` says what `item?` finds, with one case for each kind of item: what follows from
that is proved by cases on it. `Scans cs items` says that `cs` is split into `items`, wherever in a
text it starts, and `Splits cs items rest` that splitting `cs` passes over `items` and comes to
`rest`. For each kind of item there is a rule that passes over one, whatever follows it. A word and
a numeral reach as far as they can, so their rules name the character that stops them.
-/

namespace DotBinding

lemma CodeRange.any_contains_eq_false {ranges : List CodeRange} {c : Char}
    (h : ∀ r ∈ ranges, c.toNat < r.first ∨ r.last < c.toNat) :
    ranges.any (·.contains c) = false := by
  rw [List.any_eq_false]
  intro r hr hc
  rw [contains_iff] at hc
  have hout := h r hr
  omega

lemma Text.isBlank_eq_false_of_isDecimalDigit {c : Char} (h : isDecimalDigit c = true) :
    isBlank c = false := by
  have hdisjoint : ∀ d ∈ decimalDigits, ∀ b ∈ blanks, d.last < b.first ∨ b.last < d.first := by
    decide +kernel
  obtain ⟨d, hd, hc⟩ := List.any_eq_true.mp h
  rw [CodeRange.contains_iff] at hc
  apply CodeRange.any_contains_eq_false
  intro b hb
  have hout := hdisjoint d hd b hb
  omega

namespace Dot

lemma takeWhile_append_stop {p : Char → Bool} {w rest : List Char} {stop : Char}
    (hw : ∀ d ∈ w, p d = true) (hstop : p stop = false) :
    (w ++ stop :: rest).takeWhile p = w := by
  rw [List.takeWhile_append_of_pos hw, List.takeWhile_cons_of_neg (by simp [hstop]),
    List.append_nil]

lemma takeWhile_append_eq {p : Char → Bool} {cs u : List Char}
    (h : (cs.takeWhile p).length < cs.length ∨ ∃ d t, u = d :: t ∧ p d = false) :
    (cs ++ u).takeWhile p = cs.takeWhile p := by
  rw [List.takeWhile_append]
  split
  · next hall =>
    rcases h with hlt | ⟨d, t, rfl, hd⟩
    · omega
    · rw [List.takeWhile_cons_of_neg (by simp [hd]), List.append_nil]
      exact ((List.takeWhile_prefix p).eq_of_length hall).symm
  · rfl

lemma Mark.ofChar?_eq_some_iff {c : Char} {m : Mark} : Mark.ofChar? c = some m ↔ c = m.char := by
  constructor
  · intro h
    rw [Mark.ofChar?] at h
    have hm := List.find?_some h
    exact (beq_iff_eq.mp hm).symm
  · rintro rfl
    cases m <;> decide

/-! ## Numerals -/

namespace Numeral

lemma length?_of_ne {c : Char} {w : List Char} (h : c ≠ '-') :
    length? (c :: w) = unsignedLength? (c :: w) := by
  rw [length?]
  simp [h]

lemma unsignedLength?_eq_none {c : Char} {rest : List Char}
    (hdigit : Text.isDecimalDigit c = false) (hpoint : c ≠ '.') :
    unsignedLength? (c :: rest) = none := by
  have hcount : digitCount (c :: rest) = 0 := by
    rw [digitCount, List.takeWhile_cons_of_neg (by simp [hdigit])]
    rfl
  simp [unsignedLength?, hcount, hpoint]

lemma length?_eq_none {c : Char} {rest : List Char} (hdigit : Text.isDecimalDigit c = false)
    (hsign : c ≠ '-') (hpoint : c ≠ '.') : length? (c :: rest) = none := by
  rw [length?_of_ne hsign, unsignedLength?_eq_none hdigit hpoint]

lemma ne_of_length? {c d : Char} {rest : List Char} {n : Nat} (h : length? (c :: rest) = some n)
    (hdigit : Text.isDecimalDigit d = false) (hsign : d ≠ '-') (hpoint : d ≠ '.') : c ≠ d := by
  rintro rfl
  rw [length?_eq_none hdigit hsign hpoint] at h
  cases h

/-- An unsigned numeral begins with a digit or a point. -/
lemma head_of_unsignedLength? {cs : List Char} {n : Nat} (h : unsignedLength? cs = some n) :
    ∃ d more, cs = d :: more ∧ (Text.isDecimalDigit d = true ∨ d = '.') := by
  cases cs with
  | nil => simp [unsignedLength?, digitCount] at h
  | cons d more =>
    refine ⟨d, more, rfl, ?_⟩
    by_contra hstart
    rw [not_or, Bool.not_eq_true] at hstart
    rw [unsignedLength?_eq_none hstart.1 hstart.2] at h
    cases h

lemma start_of_length? {c : Char} {rest : List Char} {n : Nat}
    (h : length? (c :: rest) = some n) :
    Text.isDecimalDigit c = true ∨ c = '.' ∨
      c = '-' ∧ ∃ d more, rest = d :: more ∧ (Text.isDecimalDigit d = true ∨ d = '.') := by
  by_cases hsign : c = '-'
  · subst hsign
    obtain ⟨m, hm, -⟩ := Option.map_eq_some_iff.mp h
    exact Or.inr (Or.inr ⟨rfl, head_of_unsignedLength? hm⟩)
  · rw [length?_of_ne hsign] at h
    obtain ⟨d, more, hcons, hd⟩ := head_of_unsignedLength? h
    obtain ⟨rfl, -⟩ := List.cons.inj hcons
    exact hd.imp_right Or.inl

lemma isDecimalDigit_of_length?_eq_none {c : Char} {rest : List Char} (hc : c ≠ '-')
    (h : length? (c :: rest) = none) : Text.isDecimalDigit c = false := by
  rw [length?_of_ne hc] at h
  by_contra hdigit
  have hcount : digitCount (c :: rest) = digitCount rest + 1 := by
    rw [digitCount, List.takeWhile_cons_of_pos (by simpa using hdigit)]
    rfl
  simp only [unsignedLength?, hcount] at h
  split at h <;> simp at h

lemma digitCount_append_eq {cs u : List Char} (h : digitCount cs < cs.length ∨
    ∃ d t, u = d :: t ∧ Text.isDecimalDigit d = false) :
    digitCount (cs ++ u) = digitCount cs := by
  rw [digitCount, takeWhile_append_eq h]
  rfl

lemma digitCount_le (cs : List Char) : digitCount cs ≤ cs.length :=
  (List.takeWhile_prefix _).length_le

lemma unsignedLength?_le {cs : List Char} {n : Nat} (h : unsignedLength? cs = some n) :
    digitCount cs ≤ n ∧ n ≤ cs.length := by
  have hwhole := digitCount_le cs
  simp only [unsignedLength?] at h
  split at h
  · next fraction hdrop =>
    have hfraction := digitCount_le fraction
    have hlength := congrArg List.length hdrop
    rw [List.length_drop, List.length_cons] at hlength
    split at h
    · cases h
    · obtain rfl := Option.some.inj h
      omega
  · split at h
    · cases h
    · obtain rfl := Option.some.inj h
      omega

lemma unsignedLength?_append_eq {cs u : List Char}
    (h : (∃ n < cs.length, unsignedLength? cs = some n) ∨
      ∃ d t, u = d :: t ∧ Text.isDecimalDigit d = false ∧ d ≠ '.') :
    unsignedLength? (cs ++ u) = unsignedLength? cs := by
  have hcount : digitCount (cs ++ u) = digitCount cs := by
    apply digitCount_append_eq
    rcases h with ⟨n, hn, hsome⟩ | ⟨d, t, rfl, hd, -⟩
    · exact Or.inl (Nat.lt_of_le_of_lt (unsignedLength?_le hsome).1 hn)
    · exact Or.inr ⟨d, t, rfl, hd⟩
  have hdrop : (cs ++ u).drop (digitCount cs) = cs.drop (digitCount cs) ++ u :=
    List.drop_append_of_le_length (digitCount_le cs)
  simp only [unsignedLength?, hcount, hdrop]
  cases hbehind : cs.drop (digitCount cs) with
  | nil =>
    have hall : cs.length ≤ digitCount cs := List.drop_eq_nil_iff.mp hbehind
    rcases h with ⟨n, hn, hsome⟩ | ⟨d, t, rfl, -, hpoint⟩
    · have hle := (unsignedLength?_le hsome).1
      omega
    · simp [hpoint]
  | cons e fraction =>
    by_cases he : e = '.'
    · subst he
      have hfraction : digitCount (fraction ++ u) = digitCount fraction := by
        apply digitCount_append_eq
        rcases h with ⟨n, hn, hsome⟩ | ⟨d, t, rfl, hd, -⟩
        · left
          have hlength := congrArg List.length hbehind
          rw [List.length_drop, List.length_cons] at hlength
          simp only [unsignedLength?, hbehind] at hsome
          split at hsome
          · cases hsome
          · have hsum := Option.some.inj hsome
            omega
        · exact Or.inr ⟨d, t, rfl, hd⟩
      simp [hfraction]
    · simp [he]

lemma length?_le {cs : List Char} {n : Nat} (h : length? cs = some n) : n ≤ cs.length := by
  unfold length? at h
  split at h
  · obtain ⟨m, hm, rfl⟩ := Option.map_eq_some_iff.mp h
    exact Nat.succ_le_succ (unsignedLength?_le hm).2
  · exact (unsignedLength?_le h).2

lemma length?_append_eq {c : Char} {rest u : List Char}
    (h : (∃ n ≤ rest.length, length? (c :: rest) = some n) ∨
      ∃ d t, u = d :: t ∧ Text.isDecimalDigit d = false ∧ d ≠ '.') :
    length? (c :: (rest ++ u)) = length? (c :: rest) := by
  by_cases hc : c = '-'
  · subst hc
    rw [length?, length?, unsignedLength?_append_eq]
    refine h.imp_left ?_
    rintro ⟨n, hn, hsome⟩
    obtain ⟨m, hm, rfl⟩ := Option.map_eq_some_iff.mp hsome
    exact ⟨m, hn, hm⟩
  · rw [length?_of_ne hc, length?_of_ne hc, ← List.cons_append, unsignedLength?_append_eq]
    refine h.imp_left ?_
    rintro ⟨n, hn, hsome⟩
    rw [length?_of_ne hc] at hsome
    exact ⟨n, Nat.lt_succ_of_le hn, hsome⟩

end Numeral

namespace Scanner

lemma gap?_eq_none {c : Char} {rest : List Char} (hblank : Text.isBlank c = false)
    (hhash : c ≠ '#') (hslash : c ≠ '/') : gap? c rest = none := by
  simp [gap?, hblank, hhash, hslash]

section WordStart

variable {c : Char}

lemma toNat_of_isAsciiWordStart (h : isAsciiWordStart c = true) :
    65 ≤ c.toNat ∧ c.toNat ≤ 122 := by
  have hletter : (c.isUpper || c.isLower || c == '_') = true := h
  rw [Bool.or_eq_true, Bool.or_eq_true, beq_iff_eq] at hletter
  rcases hletter with (hupper | hlower) | rfl
  · have hbounds : c.val ≥ 'A'.val ∧ c.val ≤ 'Z'.val := of_decide_eq_true hupper
    exact ⟨hbounds.1, Nat.le_trans hbounds.2 (by decide)⟩
  · obtain ⟨hfirst, hlast⟩ := (Bool.and_eq_true _ _).mp hlower
    have ha : 'a'.val ≤ c.val := of_decide_eq_true hfirst
    have hz : c.val ≤ 'z'.val := of_decide_eq_true hlast
    exact ⟨Nat.le_trans (by decide) ha, hz⟩
  · decide

lemma ne_of_isAsciiWordStart (h : isAsciiWordStart c = true) {d : Char}
    (hd : isAsciiWordStart d = false) : c ≠ d := by
  rintro rfl
  rw [h] at hd
  contradiction

lemma isBlank_of_isAsciiWordStart (h : isAsciiWordStart c = true) : Text.isBlank c = false := by
  have hranges : ∀ r ∈ Text.blanks, r.last < 65 ∨ 122 < r.first := by decide
  have hc := toNat_of_isAsciiWordStart h
  apply CodeRange.any_contains_eq_false
  intro r hr
  have hout := hranges r hr
  omega

lemma isDecimalDigit_of_isAsciiWordStart (h : isAsciiWordStart c = true) :
    Text.isDecimalDigit c = false := by
  have hranges : ∀ r ∈ Text.decimalDigits, r.last < 65 ∨ 122 < r.first := by decide
  have hc := toNat_of_isAsciiWordStart h
  apply CodeRange.any_contains_eq_false
  intro r hr
  have hout := hranges r hr
  omega

lemma ne_of_isWordStart (h : isWordStart c = true) {d : Char} (hd : isWordStart d = false) :
    c ≠ d := by
  rintro rfl
  rw [h] at hd
  contradiction

lemma ofChar?_of_isWordStart (h : isWordStart c = true) : Mark.ofChar? c = none := by
  rw [Mark.ofChar?, List.find?_eq_none]
  intro m _
  have hm : isWordStart m.char = false := by cases m <;> decide
  simpa using (ne_of_isWordStart h hm).symm

end WordStart

lemma gap?_mark (m : Mark) (rest : List Char) : gap? m.char rest = none := by
  apply gap?_eq_none <;> cases m <;> decide

lemma bodyLength?_escape (cs rest : List Char) :
    bodyLength? (escape cs ++ '"' :: rest) = some (escape cs).length := by
  induction cs with
  | nil => rfl
  | cons c cs ih =>
    rw [escape]
    split
    · next h =>
      rw [List.cons_append, List.cons_append, bodyLength?, ih]
      rfl
    · next h =>
      rw [not_or] at h
      rw [List.cons_append, bodyLength?, ih]
      · rfl
      · exact fun hquote => h.2 hquote
      · intro d more hslash
        exact absurd hslash h.1

lemma sliceOf_append (w rest : List Char) : sliceOf (w ++ rest) w.length = String.ofList w := by
  rw [sliceOf, List.take_left]

lemma gap?_of_isAsciiWordStart {c : Char} (h : isAsciiWordStart c = true) (rest : List Char) :
    gap? c rest = none :=
  gap?_eq_none (isBlank_of_isAsciiWordStart h) (ne_of_isAsciiWordStart h (by decide))
    (ne_of_isAsciiWordStart h (by decide))

lemma sliceOf_append_of_le {cs u : List Char} {n : Nat} (h : n ≤ cs.length) :
    sliceOf (cs ++ u) n = sliceOf cs n := by
  rw [sliceOf, sliceOf, List.take_append_of_le_length h]

section Begins

variable {c stop : Char} {w rest : List Char} {l : Lexeme} {n : Nat}

/-- What begins with a character: an item of this kind, with so many of the characters behind the
first one. -/
inductive Begins (c : Char) (rest : List Char) : Lexeme → Nat → Prop
  | quoted {n : Nat} (hc : c = '"') (hn : bodyLength? rest = some n) :
      Begins c rest (.quoted (sliceOf rest n)) (n + 1)
  | edgeOp (op : EdgeOp) {more : List Char} (hop : c :: rest = op.text.toList ++ more) :
      Begins c rest (.edgeOp op) 1
  | numeral {n : Nat} (hn : Numeral.length? (c :: rest) = some n) :
      Begins c rest (.numeral (sliceOf (c :: rest) n)) (n - 1)
  | mark {m : Mark} (hc : c = m.char) : Begins c rest (.mark m) 0
  | word {n : Nat} (hc : isWordStart c = true) (hdigit : Text.isDecimalDigit c = false)
      (hn : (rest.takeWhile isWordPart).length = n) :
      Begins c rest (.word (sliceOf (c :: rest) (n + 1))) n

lemma Begins.of_item? (h : item? c rest = some (l, n)) : Begins c rest l n := by
  unfold item? at h
  split at h
  · next hquote =>
    obtain ⟨m, hm, hfound⟩ := Option.map_eq_some_iff.mp h
    obtain ⟨rfl, rfl⟩ := Prod.mk.inj hfound
    exact .quoted hquote hm
  split at h
  · next harrow =>
    obtain ⟨rfl, hhead⟩ := harrow
    obtain ⟨more, rfl⟩ := List.head?_eq_some_iff.mp hhead
    obtain ⟨rfl, rfl⟩ := Prod.mk.inj (Option.some.inj h)
    exact .edgeOp .arrow rfl
  split at h
  · next hline =>
    obtain ⟨rfl, hhead⟩ := hline
    obtain ⟨more, rfl⟩ := List.head?_eq_some_iff.mp hhead
    obtain ⟨rfl, rfl⟩ := Prod.mk.inj (Option.some.inj h)
    exact .edgeOp .line rfl
  split at h
  · next m hnumeral =>
    obtain ⟨rfl, rfl⟩ := Prod.mk.inj (Option.some.inj h)
    exact .numeral hnumeral
  next hnumeral =>
  split at h
  · next m hmark =>
    obtain ⟨rfl, rfl⟩ := Prod.mk.inj (Option.some.inj h)
    exact .mark (Mark.ofChar?_eq_some_iff.mp hmark)
  split at h
  · next hstart =>
    obtain ⟨rfl, rfl⟩ := Prod.mk.inj (Option.some.inj h)
    have hsign : c ≠ '-' := ne_of_isWordStart hstart (by decide)
    exact .word hstart (Numeral.isDecimalDigit_of_length?_eq_none hsign hnumeral) rfl
  · cases h

lemma Begins.item? (h : Begins c rest l n) : item? c rest = some (l, n) := by
  cases h with
  | quoted hc hn =>
    rw [Scanner.item?, if_pos hc, hn]
    rfl
  | edgeOp op hop => cases op <;> obtain ⟨rfl, rfl⟩ := List.cons.inj hop <;> rfl
  | numeral hn =>
    have hquote : c ≠ '"' :=
      Numeral.ne_of_length? hn (by decide +kernel) (by decide) (by decide)
    -- a sign comes before digits or a point, so no edge operator is found first
    have hedge (d : Char) (hd : d = '>' ∨ d = '-') : ¬(c = '-' ∧ rest.head? = some d) := by
      rintro ⟨rfl, hhead⟩
      obtain ⟨more, rfl⟩ := List.head?_eq_some_iff.mp hhead
      rcases Numeral.start_of_length? hn with hdigit | hpoint | ⟨-, e, behind, hrest, he⟩
      · exact absurd hdigit (by decide +kernel)
      · exact absurd hpoint (by decide)
      · obtain ⟨rfl, -⟩ := List.cons.inj hrest
        rcases hd with rfl | rfl <;> exact absurd he (by decide +kernel)
    rw [Scanner.item?, if_neg hquote, if_neg (hedge '>' (Or.inl rfl)),
      if_neg (hedge '-' (Or.inr rfl)), hn]
  | @mark m hc =>
    subst hc
    have hdigit : Text.isDecimalDigit m.char = false := by cases m <;> decide +kernel
    have hchar : m.char ≠ '"' ∧ m.char ≠ '-' ∧ m.char ≠ '.' := by cases m <;> decide
    obtain ⟨hquote, hsign, hpoint⟩ := hchar
    simp [Scanner.item?, hquote, hsign, Numeral.length?_eq_none hdigit hsign hpoint,
      Mark.ofChar?_eq_some_iff.mpr rfl]
  | word hc hdigit hn =>
    have hquote : c ≠ '"' := ne_of_isWordStart hc (by decide)
    have hsign : c ≠ '-' := ne_of_isWordStart hc (by decide)
    have hnumeral : Numeral.length? (c :: rest) = none :=
      Numeral.length?_eq_none hdigit hsign (ne_of_isWordStart hc (by decide))
    simp [Scanner.item?, hquote, hsign, hnumeral, ofChar?_of_isWordStart hc, hc, hn]

lemma item?_mark (m : Mark) (rest : List Char) : item? m.char rest = some (.mark m, 0) :=
  Begins.item? (.mark rfl)

lemma item?_word (hc : isAsciiWordStart c = true) (hw : ∀ d ∈ w, isWordPart d = true)
    (hstop : isWordPart stop = false) :
    item? c (w ++ stop :: rest) = some (.word (String.ofList (c :: w)), w.length) := by
  have hslice : sliceOf (c :: (w ++ stop :: rest)) (w.length + 1) = String.ofList (c :: w) :=
    sliceOf_append (c :: w) (stop :: rest)
  rw [← hslice]
  exact Begins.item? (.word (by rw [isWordStart, hc, Bool.true_or])
    (isDecimalDigit_of_isAsciiWordStart hc) (by rw [takeWhile_append_stop hw hstop]))

end Begins

/-- A character that ends every word and every numeral. -/
def isStop (c : Char) : Bool :=
  !isWordPart c && !Text.isDecimalDigit c && c != '.'

lemma isStop_iff {c : Char} : isStop c = true ↔
    isWordPart c = false ∧ Text.isDecimalDigit c = false ∧ c ≠ '.' := by
  simp [isStop, and_assoc]

end Scanner

open Scanner

/-- A text is split into these items, wherever it starts. -/
def Scans (cs : List Char) (items : List Lexeme) : Prop :=
  ∀ p, ∃ ts, scanFrom p 0 cs = .ok ts ∧ ts.items.map Token.lexeme = items

namespace Scans

variable {c : Char} {rest : List Char} {items : List Lexeme}

lemma nil : Scans [] [] :=
  fun p => ⟨⟨[], p⟩, rfl, rfl⟩

lemma gap {n : Nat} (hgap : gap? c rest = some n) (h : Scans (rest.drop n) items) :
    Scans (c :: rest) items := by
  intro p
  obtain ⟨ts, hscan, hitems⟩ := h ((p.next c).after (rest.take n))
  refine ⟨ts, ?_, hitems⟩
  rw [scanFrom, hgap]
  exact (scanFrom_skip _ n rest).trans hscan

lemma item {l : Lexeme} {n : Nat} (hgap : gap? c rest = none) (hitem : item? c rest = some (l, n))
    (h : Scans (rest.drop n) items) : Scans (c :: rest) (l :: items) := by
  intro p
  obtain ⟨ts, hscan, rfl⟩ := h ((p.next c).after (rest.take n))
  refine ⟨ts.cons ⟨l, p⟩, ?_, rfl⟩
  rw [scanFrom, hgap]
  simp only [hitem]
  rw [scanFrom_skip, hscan]
  rfl

end Scans

/-- Splitting a text passes over these items, over blanks and over comments, and comes to `rest`. -/
inductive Splits : List Char → List Lexeme → List Char → Prop where
  | done (cs : List Char) : Splits cs [] cs
  | gap {c : Char} {rest tail : List Char} {items : List Lexeme} {n : Nat}
      (hgap : gap? c rest = some n) (h : Splits (rest.drop n) items tail) :
      Splits (c :: rest) items tail
  | item {c : Char} {rest tail : List Char} {items : List Lexeme} {l : Lexeme} {n : Nat}
      (hgap : gap? c rest = none) (hitem : item? c rest = some (l, n))
      (h : Splits (rest.drop n) items tail) : Splits (c :: rest) (l :: items) tail

namespace Splits

variable {c stop : Char} {s w rest tail : List Char} {items more : List Lexeme}

lemma trans (h : Splits s items rest) (h' : Splits rest more tail) :
    Splits s (items ++ more) tail := by
  induction h with
  | done cs => exact h'
  | gap hgap _ ih => exact .gap hgap (ih h')
  | item hgap hitem _ ih => exact .item hgap hitem (ih h')

lemma scans_append (h : Splits s items tail) (h' : Scans tail more) : Scans s (items ++ more) := by
  induction h with
  | done cs => exact h'
  | gap hgap _ ih => exact Scans.gap hgap (ih h')
  | item hgap hitem _ ih => exact Scans.item hgap hitem (ih h')

lemma blank (hc : Text.isBlank c = true) (hhash : c ≠ '#') (hslash : c ≠ '/')
    (hstop : Text.isBlank stop = false) : Splits (c :: stop :: rest) [] (stop :: rest) := by
  refine .gap (n := 0) ?_ (.done _)
  simp [gap?, hc, hhash, hslash, hstop]

lemma mark (m : Mark) (rest : List Char) : Splits (m.char :: rest) [.mark m] rest :=
  .item (n := 0) (gap?_mark m rest) (item?_mark m rest) (.done rest)

lemma word (hc : isAsciiWordStart c = true) (hw : ∀ d ∈ w, isWordPart d = true)
    (hstop : isWordPart stop = false) :
    Splits (c :: (w ++ stop :: rest)) [.word (String.ofList (c :: w))] (stop :: rest) := by
  refine .item (gap?_of_isAsciiWordStart hc _) (item?_word hc hw hstop) ?_
  rw [List.drop_left]
  exact .done _

lemma edgeOp (op : EdgeOp) (rest : List Char) :
    Splits (op.text.toList ++ rest) [.edgeOp op] rest := by
  cases op with
  | arrow => exact .item (n := 1) (gap?_eq_none (by decide) (by decide) (by decide)) rfl (.done _)
  | line => exact .item (n := 1) (gap?_eq_none (by decide) (by decide) (by decide)) rfl (.done _)

lemma numeral (hcw : Numeral.length? (c :: w) = some (w.length + 1))
    (hstop : Text.isDecimalDigit stop = false) (hpoint : stop ≠ '.') :
    Splits (c :: (w ++ stop :: rest)) [.numeral (String.ofList (c :: w))] (stop :: rest) := by
  have hlength : Numeral.length? (c :: (w ++ stop :: rest)) = some (w.length + 1) :=
    (Numeral.length?_append_eq (Or.inr ⟨stop, rest, rfl, hstop, hpoint⟩)).trans hcw
  have hslice : sliceOf (c :: (w ++ stop :: rest)) (w.length + 1) = String.ofList (c :: w) :=
    sliceOf_append (c :: w) (stop :: rest)
  have hblank : Text.isBlank c = false := by
    rcases Numeral.start_of_length? hcw with hdigit | rfl | ⟨rfl, -⟩
    · exact Text.isBlank_eq_false_of_isDecimalDigit hdigit
    · decide
    · decide
  have hhash : c ≠ '#' := Numeral.ne_of_length? hcw (by decide +kernel) (by decide) (by decide)
  have hslash : c ≠ '/' := Numeral.ne_of_length? hcw (by decide +kernel) (by decide) (by decide)
  rw [← hslice]
  refine .item (n := w.length) (gap?_eq_none hblank hhash hslash) (Begins.numeral hlength).item? ?_
  rw [List.drop_left]
  exact .done _

lemma quoted (cs rest : List Char) :
    Splits ('"' :: (escape cs ++ '"' :: rest)) [.quoted (String.ofList (escape cs))] rest := by
  refine .item (n := (escape cs).length + 1)
    (gap?_eq_none (by decide) (by decide) (by decide)) ?_ ?_
  · simp [item?, bodyLength?_escape, sliceOf_append]
  · rw [← List.drop_drop, List.drop_left]
    exact .done rest

end Splits

end Dot

end DotBinding

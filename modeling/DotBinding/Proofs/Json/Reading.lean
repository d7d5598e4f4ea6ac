import DotBinding.Proofs.Json.Scalars
import DotBinding.Proofs.Value.Writable
import Mathlib.Data.Nat.Digits.Defs

/-!
# What reading JSON gives

Every step of the reader takes a mark, a text or a scalar, or refuses. Whatever is read has texts as
the keys of its maps, as nothing else is ever put there, and no number that is too long. The one
error that is not about the form of a text is such a number, so where it comes up there is a row of
that many digits.
-/

namespace DotBinding

namespace Json

/-- Whether what is in the open lists and maps can have been read. -/
def Nest.IsData : Nest → Prop
  | top => True
  | list items outer => (Value.list items).isData = true ∧ outer.IsData
  | map entries _ outer => entries.toValue.isData = true ∧ outer.IsData

namespace Point

/-- Whether what is in the open lists and maps can have been read. -/
def IsData : Point → Prop
  | value nest => nest.IsData
  | listStart outer | mapStart outer => outer.IsData
  | listEnd items outer => (Value.list items).isData = true ∧ outer.IsData
  | mapKey entries outer | colon entries _ outer | mapEnd entries outer =>
    entries.toValue.isData = true ∧ outer.IsData
  | finished v => v.isData = true

lemma isData_behind {v : Value} (hv : v.isData = true) {nest : Nest} (h : nest.IsData) :
    (behind v nest).IsData := by
  cases nest with
  | top => exact hv
  | list items outer =>
    obtain ⟨hitems, houter⟩ := h
    rw [Value.isData_list_iff] at hitems
    exact ⟨Value.isData_list_iff.mpr (List.forall_mem_cons.mpr ⟨hv, hitems⟩), houter⟩
  | map entries key outer => exact ⟨Value.isData_set h.1 key hv, h.2⟩

/-! ## The steps -/

/-- What a character begins at a point, whatever stands behind it. -/
inductive Takes (p : Point) (c : Char) : Prop where
  | mark (next : Point) (hstep : ∀ rest, p.step c rest = proceed next)
      (hdata : p.IsData → next.IsData)
  | text (next : String → Point) (hstep : ∀ rest, p.step c rest = takeText rest next)
      (hdata : p.IsData → ∀ s, (next s).IsData)
  | scalar (nest : Nest) (hstep : ∀ rest, p.step c rest = takeScalar nest c rest)
      (hdata : p.IsData → nest.IsData)
  | nothing (hstep : ∀ rest, p.step c rest = refuse p)

lemma takes_of_takeValue {p : Point} {nest : Nest} {c : Char}
    (hstep : ∀ rest, p.step c rest = takeValue nest c rest)
    (hdata : p.IsData → nest.IsData) : Takes p c := by
  by_cases hquote : c = '"'
  · refine .text (fun s => behind (.text s) nest) (fun rest => ?_)
      fun h s => isData_behind rfl (hdata h)
    rw [hstep, takeValue, if_pos hquote]
  by_cases hlist : c = '['
  · refine .mark (listStart nest) (fun rest => ?_) hdata
    rw [hstep, takeValue, if_neg hquote, if_pos hlist]
  by_cases hmap : c = '{'
  · refine .mark (mapStart nest) (fun rest => ?_) hdata
    rw [hstep, takeValue, if_neg hquote, if_neg hlist, if_pos hmap]
  · refine .scalar nest (fun rest => ?_) hdata
    rw [hstep, takeValue, if_neg hquote, if_neg hlist, if_neg hmap]

lemma takes (p : Point) (c : Char) : Takes p c := by
  cases p with
  | value nest => exact takes_of_takeValue (fun _ => rfl) id
  | listStart outer =>
    by_cases hend : c = ']'
    · exact .mark (behind (.list []) outer) (fun _ => if_pos hend) (isData_behind rfl)
    · exact takes_of_takeValue (fun _ => if_neg hend) fun h => ⟨rfl, h⟩
  | listEnd items outer =>
    by_cases hmore : c = ','
    · exact .mark (value (.list items outer)) (fun _ => if_pos hmore) id
    by_cases hend : c = ']'
    · refine .mark (behind (.list items.reverse) outer) (fun rest => ?_) ?_
      · rw [step, if_neg hmore, if_pos hend]
      · rintro ⟨hitems, houter⟩
        refine isData_behind (v := .list items.reverse) ?_ houter
        refine Value.isData_list_iff.mpr fun v hv => ?_
        exact Value.isData_list_iff.mp hitems v (List.mem_reverse.mp hv)
    · refine .nothing fun rest => ?_
      rw [step, if_neg hmore, if_neg hend]
  | mapStart outer =>
    by_cases hend : c = '}'
    · exact .mark (behind (.map []) outer) (fun _ => if_pos hend) (isData_behind rfl)
    by_cases hquote : c = '"'
    · refine .text (fun s => colon .empty s outer) (fun rest => ?_) fun h _ => ⟨rfl, h⟩
      rw [step, if_neg hend, if_pos hquote]
    · refine .nothing fun rest => ?_
      rw [step, if_neg hend, if_neg hquote]
  | mapKey entries outer =>
    by_cases hquote : c = '"'
    · exact .text (fun s => colon entries s outer) (fun _ => if_pos hquote) fun h _ => h
    · exact .nothing fun _ => if_neg hquote
  | colon entries name outer =>
    by_cases hcolon : c = ':'
    · exact .mark (value (.map entries name outer)) (fun _ => if_pos hcolon) id
    · exact .nothing fun _ => if_neg hcolon
  | mapEnd entries outer =>
    by_cases hmore : c = ','
    · exact .mark (mapKey entries outer) (fun _ => if_pos hmore) id
    by_cases hend : c = '}'
    · refine .mark (behind entries.toValue outer) (fun rest => ?_)
        fun h => isData_behind h.1 h.2
      rw [step, if_neg hmore, if_pos hend]
    · refine .nothing fun rest => ?_
      rw [step, if_neg hmore, if_neg hend]
  | finished v => exact .nothing fun _ => rfl

lemma isData_of_mem_words {w : List Char × Value} (h : w ∈ words) :
    w.2.isData = true ∧ w.2.isNested = false := by
  simp only [words, List.mem_cons, List.not_mem_nil, or_false] at h
  rcases h with rfl | rfl | rfl | rfl | rfl | rfl <;> exact ⟨rfl, rfl⟩

end Point

namespace Numeral

lemma whole_of_read? {cs : List Char} {n : Numeral} (h : read? cs = some n) :
    n.whole = wholeOf cs := by
  rw [read?_eq] at h
  split at h
  · cases h
  · exact congrArg whole (Option.some.inj h).symm

/-- What is written with digits is less than the power of their number. -/
lemma ofDigitChars_lt {digits : List Char} (h : ∀ d ∈ digits, d.isDigit = true) :
    Nat.ofDigitChars 10 digits 0 < 10 ^ digits.length := by
  induction digits with
  | nil => exact Nat.one_pos
  | cons d rest ih =>
    obtain ⟨hd, hrest⟩ := List.forall_mem_cons.mp h
    have hrest' := ih hrest
    have hlast : d.val ≤ '9'.val := of_decide_eq_true ((Bool.and_eq_true _ _).mp hd).2
    have hdigit : d.toNat - '0'.toNat ≤ 9 := Nat.sub_le_of_le_add hlast
    have hfirst := Nat.mul_le_mul_left (10 ^ rest.length) hdigit
    rw [Nat.ofDigitChars_cons, Nat.mul_zero, Nat.zero_add, Nat.ofDigitChars_eq_ofDigitChars_zero,
      List.length_cons, Nat.pow_succ]
    omega

lemma isData_int_of_digits {digits : List Char} (h : ∀ d ∈ digits, d.isDigit = true)
    (hlength : digits.length ≤ digitLimit) (negative : Bool) :
    (Value.int (if negative then -(Nat.ofDigitChars 10 digits 0 : Int)
      else Nat.ofDigitChars 10 digits 0)).isData = true := by
  refine Value.isData_iff.mpr ⟨rfl, Value.isWritable_int_iff.mpr ?_⟩
  have hbound := (ofDigitChars_lt h).trans_le (Nat.pow_le_pow_right (by decide) hlength)
  have hmagnitude := Nat.toDigits_length 10 _ digitLimit (by decide) hbound
  cases negative with
  | true => rwa [if_pos rfl, Int.natAbs_neg, Int.natAbs_natCast]
  | false => rwa [if_neg Bool.false_ne_true, Int.natAbs_natCast]

/-- A numeral stands for a number, unless it is a whole number that is too long. -/
lemma value_cases (negative : Bool) {n : Numeral} (h : ∀ d ∈ n.whole, d.isDigit = true) :
    (∃ v, n.value negative = .ok v ∧ v.isData = true ∧ v.isNested = false) ∨
      n.value negative = .error (.hugeNumber n.whole.length) ∧ digitLimit < n.whole.length := by
  unfold value
  split
  · split
    · next hlong => exact Or.inr ⟨rfl, hlong⟩
    · next hshort =>
      exact Or.inl ⟨_, rfl, isData_int_of_digits h (Nat.le_of_not_lt hshort) negative, rfl⟩
  · exact Or.inl ⟨_, rfl, rfl, rfl⟩

end Numeral

/-- Whether a text holds a row of so many digits. -/
def HasDigits (n : Nat) (cs : List Char) : Prop :=
  ∃ digits : List Char, digits.length = n ∧ (∀ d ∈ digits, d.isDigit = true) ∧ digits <:+: cs

lemma HasDigits.cons {n : Nat} {cs : List Char} (h : HasDigits n cs) (c : Char) :
    HasDigits n (c :: cs) := by
  obtain ⟨digits, hlength, hdigits, hinfix⟩ := h
  exact ⟨digits, hlength, hdigits, hinfix.trans (List.suffix_cons c cs).isInfix⟩

namespace Point

lemma takeScalar_cases (nest : Nest) (c : Char) (rest : List Char) :
    (∃ v n, takeScalar nest c rest = .ok (behind v nest, n) ∧ v.isData = true ∧
      v.isNested = false) ∨
    (∃ problem offset, takeScalar nest c rest = .error (.malformed problem offset)) ∨
    ∃ n, takeScalar nest c rest = .error (.hugeNumber n) ∧ digitLimit < n ∧
      HasDigits n (c :: rest) := by
  unfold takeScalar
  split
  · next word v hword =>
    exact Or.inl ⟨v, _, rfl, isData_of_mem_words (List.mem_of_find?_eq_some hword)⟩
  · dsimp only
    split
    · exact Or.inr (Or.inl ⟨_, _, rfl⟩)
    · next n hread =>
      obtain ⟨hstarts, hdigits⟩ := Numeral.wholeOf_starts (if c == '-' then rest else c :: rest)
      rw [← Numeral.whole_of_read? hread] at hstarts hdigits
      rcases n.value_cases (c == '-') hdigits with ⟨v, hv, hdata⟩ | ⟨hlong, hlimit⟩
      · rw [hv]
        exact Or.inl ⟨v, _, rfl, hdata⟩
      · rw [hlong]
        refine Or.inr (Or.inr ⟨_, rfl, hlimit, n.whole, rfl, hdigits, hstarts.isInfix.trans ?_⟩)
        split
        · exact (List.suffix_cons c rest).isInfix
        · exact List.infix_rfl

/-- The ways in which a step ends. -/
lemma step_cases (p : Point) (c : Char) (rest : List Char) :
    (∃ next n, p.step c rest = .ok (next, n) ∧ (p.IsData → next.IsData)) ∨
    (∃ problem offset, p.step c rest = .error (.malformed problem offset)) ∨
    ∃ n, p.step c rest = .error (.hugeNumber n) ∧ digitLimit < n ∧ HasDigits n (c :: rest) := by
  cases p.takes c with
  | mark next hstep hdata => exact Or.inl ⟨next, 0, hstep rest, hdata⟩
  | text next hstep hdata =>
    rw [hstep, takeText]
    split
    · exact Or.inl ⟨_, _, rfl, fun h => hdata h _⟩
    · exact Or.inr (Or.inl ⟨_, _, rfl⟩)
  | scalar nest hstep hdata =>
    rw [hstep]
    rcases takeScalar_cases nest c rest with ⟨v, n, heq, hv, -⟩ | hmalformed | hlong
    · refine Or.inl ⟨_, _, heq, fun h => ?_⟩
      exact isData_behind hv (hdata h)
    · exact Or.inr (Or.inl hmalformed)
    · exact Or.inr (Or.inr hlong)
  | nothing hstep => exact Or.inr (Or.inl ⟨_, _, hstep rest⟩)

end Point

/-! ## Whole texts -/

/-- A character is passed over as a blank, or a step is taken. -/
lemma readFrom_cons_iff {offset : Nat} {p : Point} {c : Char} {rest : List Char} {v : Value} :
    readFrom offset p 0 (c :: rest) = .ok v ↔
      isBlank c = true ∧ readFrom (offset + 1) p 0 rest = .ok v ∨
      isBlank c = false ∧ ∃ next n, p.step c rest = .ok (next, n) ∧
        readFrom (offset + 1) next n rest = .ok v := by
  rw [readFrom]
  cases isBlank c with
  | true => simp
  | false =>
    rw [if_neg Bool.false_ne_true]
    cases p.step c rest with
    | error e => simp
    | ok taken =>
      obtain ⟨next, n⟩ := taken
      simp [and_assoc]

lemma readFrom_cases (offset : Nat) (p : Point) (skip : Nat) (cs : List Char) :
    (∃ v, readFrom offset p skip cs = .ok v ∧ (p.IsData → v.isData = true)) ∨
    (∃ problem shift, readFrom offset p skip cs = .error (.malformed problem shift)) ∨
    ∃ n, readFrom offset p skip cs = .error (.hugeNumber n) ∧ digitLimit < n ∧
      HasDigits n cs := by
  induction cs generalizing offset p skip with
  | nil =>
    unfold readFrom
    split
    · exact Or.inl ⟨_, rfl, id⟩
    · exact Or.inr (Or.inl ⟨_, _, rfl⟩)
  | cons c rest ih =>
    have hmore (q : Point) (taken : Nat) (hdata : p.IsData → q.IsData) :
        (∃ v, readFrom (offset + 1) q taken rest = .ok v ∧
          (p.IsData → v.isData = true)) ∨
        (∃ problem shift, readFrom (offset + 1) q taken rest = .error (.malformed problem shift)) ∨
        ∃ n, readFrom (offset + 1) q taken rest = .error (.hugeNumber n) ∧ digitLimit < n ∧
          HasDigits n (c :: rest) := by
      refine (ih (offset + 1) q taken).imp ?_ (Or.imp_right ?_)
      · exact fun ⟨v, hv, hvdata⟩ => ⟨v, hv, fun h => hvdata (hdata h)⟩
      · exact fun ⟨n, hn, hlimit, hdigits⟩ => ⟨n, hn, hlimit, hdigits.cons c⟩
    cases skip with
    | succ skip => exact hmore p skip id
    | zero =>
      unfold readFrom
      split
      · exact hmore p 0 id
      · rcases p.step_cases c rest with ⟨next, n, heq, hdata⟩ | ⟨_, _, heq⟩ | ⟨n, heq, hdigits⟩
        · rw [heq]
          exact hmore next n hdata
        · rw [heq]
          exact Or.inr (Or.inl ⟨_, _, rfl⟩)
        · rw [heq]
          exact Or.inr (Or.inr ⟨n, rfl, hdigits⟩)

/-- What reading a text comes to: a value with texts as keys and no number that is too long, a
fault in its form, or a row of more digits than a number may have. -/
theorem read_cases (cs : List Char) :
    (∃ v, read cs = .ok v ∧ v.isData = true) ∨
    (∃ problem offset, read cs = .error (.malformed problem offset)) ∨
    ∃ n, read cs = .error (.hugeNumber n) ∧ digitLimit < n ∧ HasDigits n cs := by
  unfold read
  split
  · exact Or.inr (Or.inl ⟨_, _, rfl⟩)
  · rcases readFrom_cases 0 (.value .top) 0 cs with ⟨v, hv, hdata⟩ | hother
    · exact Or.inl ⟨v, hv, hdata trivial⟩
    · exact Or.inr hother

end Json

end DotBinding

import DotBinding.Proofs.Dot.Scanning
import Mathlib.Data.List.Basic

/-!
# What is appended to a text

An item or a comment that ends before the end of a text stays as it is when more is appended. One
that reaches the end stays if the first character appended ends words and numerals, and if it also
ends the line of a comment. Where nothing fits, nothing fits with more behind it either, as long as
what is appended continues and closes nothing.
-/

namespace DotBinding.Dot

namespace Scanner

lemma commentRest?_append {cs : List Char} {n : Nat} (h : commentRest? cs = some n)
    (u : List Char) : commentRest? (cs ++ u) = some n ∧ n ≤ cs.length := by
  fun_induction commentRest? cs generalizing n with
  | case1 rest =>
    obtain rfl := Option.some.inj h
    exact ⟨rfl, by simp⟩
  | case2 c rest hne ih =>
    obtain ⟨m, hm, rfl⟩ := Option.map_eq_some_iff.mp h
    obtain ⟨happend, hle⟩ := ih hm
    refine ⟨?_, Nat.succ_le_succ hle⟩
    rw [List.cons_append, commentRest?, happend]
    · rfl
    · intro more hc hmore
      cases rest with
      | nil => simp [commentRest?] at hm
      | cons d rest =>
        obtain ⟨rfl, -⟩ := List.cons.inj hmore
        exact hne rest hc rfl
  | case3 => cases h

lemma bodyLength?_append {cs : List Char} {n : Nat} (h : bodyLength? cs = some n)
    (u : List Char) : bodyLength? (cs ++ u) = some n ∧ n < cs.length := by
  fun_induction bodyLength? cs generalizing n with
  | case1 rest =>
    obtain rfl := Option.some.inj h
    exact ⟨rfl, by simp⟩
  | case2 d rest ih =>
    obtain ⟨m, hm, rfl⟩ := Option.map_eq_some_iff.mp h
    obtain ⟨happend, hlt⟩ := ih hm
    refine ⟨?_, by simp only [List.length_cons]; omega⟩
    rw [List.cons_append, List.cons_append, bodyLength?, happend]
    rfl
  | case3 c rest hquote hslash ih =>
    obtain ⟨m, hm, rfl⟩ := Option.map_eq_some_iff.mp h
    obtain ⟨happend, hlt⟩ := ih hm
    refine ⟨?_, Nat.succ_lt_succ hlt⟩
    rw [List.cons_append, bodyLength?, happend]
    · rfl
    · exact hquote
    · intro d more hc hmore
      cases rest with
      | nil => simp [bodyLength?] at hm
      | cons e rest => exact hslash e rest hc rfl
  | case4 => cases h

end Scanner

namespace Scanner

variable {c : Char} {rest u : List Char}

/-- An item stays as it is when it ends before the end of the text, or when what is appended begins
with a character that ends it. -/
lemma item?_append {l : Lexeme} {n : Nat} (h : item? c rest = some (l, n))
    (hu : n < rest.length ∨ ∃ d t, u = d :: t ∧ isStop d = true) :
    item? c (rest ++ u) = some (l, n) := by
  apply Begins.item?
  cases Begins.of_item? h with
  | quoted hc hn =>
    obtain ⟨happend, hlt⟩ := bodyLength?_append hn u
    rw [← sliceOf_append_of_le (u := u) (Nat.le_of_lt hlt)]
    exact .quoted hc happend
  | edgeOp op hop => exact .edgeOp op (by rw [← List.cons_append, hop, List.append_assoc])
  | numeral hn =>
    have happend : Numeral.length? (c :: (rest ++ u)) = Numeral.length? (c :: rest) := by
      apply Numeral.length?_append_eq
      rcases hu with hlt | ⟨d, t, rfl, hd⟩
      · exact Or.inl ⟨_, by omega, hn⟩
      · exact Or.inr ⟨d, t, rfl, (isStop_iff.mp hd).2⟩
    rw [← sliceOf_append_of_le (u := u) (Numeral.length?_le hn)]
    exact .numeral (happend.trans hn)
  | mark hc => exact .mark hc
  | word hc hdigit hn =>
    have htake : (rest ++ u).takeWhile isWordPart = rest.takeWhile isWordPart := by
      apply takeWhile_append_eq
      rcases hu with hlt | ⟨d, t, rfl, hd⟩
      · exact Or.inl (by omega)
      · exact Or.inr ⟨d, t, rfl, (isStop_iff.mp hd).1⟩
    have hle : n ≤ rest.length := by
      rw [← hn]
      exact (List.takeWhile_prefix _).length_le
    rw [← sliceOf_append_of_le (u := u) (Nat.succ_le_succ hle)]
    exact .word hc hdigit (by rw [htake, hn])

lemma item?_le {l : Lexeme} {n : Nat} (h : item? c rest = some (l, n)) : n ≤ rest.length := by
  cases Begins.of_item? h with
  | quoted _ hn => exact (bodyLength?_append hn []).2
  | edgeOp op hop =>
    cases op <;> obtain ⟨-, rfl⟩ := List.cons.inj hop <;> exact Nat.succ_le_succ (Nat.zero_le _)
  | numeral hn =>
    have hle := Numeral.length?_le hn
    rw [List.length_cons] at hle
    omega
  | mark => exact Nat.zero_le _
  | word _ _ hn =>
    rw [← hn]
    exact (List.takeWhile_prefix _).length_le

/-! ### Gaps -/

/-- Whether a comment that goes on to the end of its line starts at a place. -/
def isLineComment (c : Char) (rest : List Char) : Prop :=
  c = '#' ∨ c = '/' ∧ rest.head? = some '/'

lemma gap?_of_isLineComment (h : isLineComment c rest) : gap? c rest = some (lineLength rest) := by
  rcases h with rfl | ⟨rfl, hhead⟩
  · rfl
  · obtain ⟨more, rfl⟩ := List.head?_eq_some_iff.mp hhead
    rfl

lemma isLineComment_append (h : isLineComment c rest) (u : List Char) :
    isLineComment c (rest ++ u) := by
  refine h.imp_right ?_
  rintro ⟨rfl, hhead⟩
  exact ⟨rfl, by rw [List.head?_append, hhead]; rfl⟩

lemma lineLength_append {t : List Char} (h : '\n' ∈ rest ∨ u = '\n' :: t) :
    lineLength (rest ++ u) = lineLength rest := by
  rw [lineLength, takeWhile_append_eq]
  · rfl
  rcases h with hmem | rfl
  · left
    by_contra hall
    have hle := (List.takeWhile_prefix (fun d => d != '\n') (l := rest)).length_le
    have heq := (List.takeWhile_prefix (fun d => d != '\n') (l := rest)).eq_of_length (by omega)
    rw [← heq] at hmem
    exact absurd (List.all_eq_true.mp List.all_takeWhile _ hmem) (by decide)
  · exact Or.inr ⟨_, t, rfl, by decide⟩

lemma lineLength_of_not_mem (h : '\n' ∉ rest) : lineLength rest = rest.length := by
  have hall : ∀ d ∈ rest, (d != '\n') = true := by
    intro d hd
    rw [bne_iff_ne]
    rintro rfl
    exact h hd
  have hline : (rest ++ []).takeWhile (fun d => d != '\n') = rest :=
    (List.takeWhile_append_of_pos hall).trans (List.append_nil rest)
  rw [List.append_nil] at hline
  rw [lineLength, hline]

lemma blank_ne (h : Text.isBlank c = true) : c ≠ '#' ∧ c ≠ '/' := by
  constructor <;> rintro rfl <;> revert h <;> decide

lemma gap?_of_isBlank (h : Text.isBlank c = true) :
    gap? c rest = some (rest.takeWhile Text.isBlank).length := by
  obtain ⟨hhash, hslash⟩ := blank_ne h
  simp [gap?, hhash, hslash, h]

/-- A comment stays as it is when more is appended, unless it is a line comment that the text ends
in. -/
lemma gap?_append {n : Nat} (h : gap? c rest = some n) (hblank : Text.isBlank c = false)
    (hline : isLineComment c rest → lineLength (rest ++ u) = lineLength rest) :
    gap? c (rest ++ u) = some n ∧ n ≤ rest.length := by
  by_cases hc : isLineComment c rest
  · rw [gap?_of_isLineComment hc] at h
    rw [gap?_of_isLineComment (isLineComment_append hc u), hline hc]
    obtain rfl := Option.some.inj h
    exact ⟨rfl, (List.takeWhile_prefix _).length_le⟩
  · obtain ⟨hhash, hdouble⟩ := not_or.mp hc
    unfold gap? at h
    rw [if_neg hhash] at h
    split at h
    · next hslash =>
      subst hslash
      split at h
      · exact absurd ⟨rfl, rfl⟩ hdouble
      · next body =>
        obtain ⟨m, hm, rfl⟩ := Option.map_eq_some_iff.mp h
        obtain ⟨happend, hle⟩ := commentRest?_append hm u
        refine ⟨?_, Nat.succ_le_succ hle⟩
        simp [gap?, happend]
      · cases h
    · simp [hblank] at h

lemma gap?_append_of_lt {n : Nat} (h : gap? c rest = some n) (hn : n < rest.length) :
    gap? c (rest ++ u) = some n := by
  cases hblank : Text.isBlank c with
  | true =>
    rw [gap?_of_isBlank hblank, Option.some.injEq] at h
    rw [gap?_of_isBlank hblank, takeWhile_append_eq (Or.inl (by omega)), h]
  | false =>
    refine (gap?_append h hblank fun hline => ?_).1
    rw [gap?_of_isLineComment hline, Option.some.injEq, lineLength] at h
    rw [lineLength, takeWhile_append_eq (Or.inl (by omega))]
    rfl

/-- Where an item begins, no gap does, whatever follows its first character. -/
lemma gap?_of_item {l : Lexeme} {n : Nat} (hgap : gap? c rest = none)
    (hitem : item? c rest = some (l, n)) (behind : List Char) : gap? c behind = none := by
  have hslash : c ≠ '/' := by
    rintro rfl
    cases Begins.of_item? hitem with
    | quoted hc => exact absurd hc (by decide)
    | edgeOp op hop => cases op <;> exact absurd (List.cons.inj hop).1 (by decide)
    | numeral hn =>
      exact Numeral.ne_of_length? hn (by decide +kernel) (by decide) (by decide) rfl
    | @mark m hc => cases m <;> exact absurd hc (by decide)
    | word hc => exact absurd hc (by decide)
  have hhash : c ≠ '#' := by
    rintro rfl
    cases hgap
  have hblank : ¬Text.isBlank c = true := by
    intro hblank
    rw [gap?_of_isBlank hblank] at hgap
    cases hgap
  exact gap?_eq_none (by simpa using hblank) hhash hslash

/-! ### Places where nothing fits -/

/-- A character that goes on with nothing that stands in front of it, and closes nothing. -/
def isNeutral (d : Char) : Bool :=
  isStop d && ['"', '/', '*', '>', '-'].all (· != d)

lemma commentRest?_eq_none {cs : List Char} (h : '/' ∉ cs) : commentRest? cs = none := by
  induction cs with
  | nil => rfl
  | cons d t ih =>
    rw [List.mem_cons, not_or] at h
    rw [commentRest?, ih h.2]
    · rfl
    · rintro behind - rfl
      simp at h

lemma commentRest?_append_eq_none {cs : List Char} (h : commentRest? cs = none)
    (hu : '/' ∉ u) : commentRest? (cs ++ u) = none := by
  fun_induction commentRest? cs with
  | case1 rest => cases h
  | case2 d more hne ih =>
    rw [List.cons_append, commentRest?, ih (Option.map_eq_none_iff.mp h)]
    · rfl
    · intro behind hd hmore
      cases more with
      | nil => exact hu (by rw [List.nil_append] at hmore; simp [hmore])
      | cons e more =>
        obtain ⟨rfl, -⟩ := List.cons.inj hmore
        exact hne more hd rfl
  | case3 => exact commentRest?_eq_none hu

lemma bodyLength?_eq_none {cs : List Char} (h : '"' ∉ cs) : bodyLength? cs = none := by
  fun_induction bodyLength? cs with
  | case1 => simp at h
  | case2 d more ih =>
    rw [ih (fun hmem => h (List.mem_cons_of_mem _ (List.mem_cons_of_mem _ hmem)))]
    rfl
  | case3 d more _ _ ih =>
    rw [ih (fun hmem => h (List.mem_cons_of_mem _ hmem))]
    rfl
  | case4 => rfl

lemma bodyLength?_append_eq_none {cs : List Char} (h : bodyLength? cs = none)
    (hu : '"' ∉ u) : bodyLength? (cs ++ u) = none := by
  fun_induction bodyLength? cs with
  | case1 rest => cases h
  | case2 d more ih =>
    rw [List.cons_append, List.cons_append, bodyLength?, ih (Option.map_eq_none_iff.mp h)]
    rfl
  | case3 d more hquote hslash ih =>
    by_cases hlast : more = []
    · subst hlast
      by_cases hd : d = '"'
      · exact absurd hd hquote
      · exact bodyLength?_eq_none (by simpa [eq_comm, hd] using hu)
    · obtain ⟨e, behind, rfl⟩ := List.exists_cons_of_ne_nil hlast
      rw [List.cons_append, bodyLength?, ih (Option.map_eq_none_iff.mp h)]
      · rfl
      · exact hquote
      · intro e' behind' hd hmore
        obtain ⟨rfl, -⟩ := List.cons.inj hmore
        exact hslash _ behind hd rfl
  | case4 => exact bodyLength?_eq_none hu

lemma ne_of_isNeutral {d e : Char} (h : isNeutral d = true) (he : isNeutral e = false) : d ≠ e := by
  rintro rfl
  rw [h] at he
  contradiction

lemma isStop_of_isNeutral {d : Char} (h : isNeutral d = true) : isStop d = true :=
  ((Bool.and_eq_true _ _).mp h).1

lemma item?_append_eq_none (h : item? c rest = none) (hu : ∀ d ∈ u, isNeutral d = true) :
    item? c (rest ++ u) = none := by
  have hnothing {l : Lexeme} {n : Nat} : ¬Begins c rest l n := by
    intro hbegins
    rw [hbegins.item?] at h
    cases h
  by_contra hsome
  obtain ⟨⟨l, n⟩, hitem⟩ := Option.ne_none_iff_exists'.mp hsome
  cases Begins.of_item? hitem with
  | quoted hc hn =>
    cases hbody : bodyLength? rest with
    | some m => exact hnothing (.quoted hc hbody)
    | none =>
      rw [bodyLength?_append_eq_none hbody] at hn
      · cases hn
      · exact fun hmem => ne_of_isNeutral (hu _ hmem) (by decide +kernel) rfl
  | edgeOp op hop =>
    cases rest with
    | nil =>
      obtain rfl : u = op.text.toList.tail ++ _ := by
        cases op <;> exact (List.cons.inj hop).2
      cases op <;> exact absurd (hu _ List.mem_cons_self) (by decide +kernel)
    | cons e rest =>
      cases op <;> obtain ⟨rfl, hbehind⟩ := List.cons.inj hop <;>
        obtain ⟨rfl, -⟩ := List.cons.inj hbehind
      · exact hnothing (.edgeOp .arrow rfl)
      · exact hnothing (.edgeOp .line rfl)
  | numeral hn =>
    cases u with
    | nil =>
      rw [List.append_nil] at hn
      exact hnothing (.numeral hn)
    | cons d t =>
      have hd := isStop_iff.mp (isStop_of_isNeutral (hu d List.mem_cons_self))
      rw [Numeral.length?_append_eq (Or.inr ⟨d, t, rfl, hd.2⟩)] at hn
      exact hnothing (.numeral hn)
  | mark hc => exact hnothing (.mark hc)
  | word hc hdigit => exact hnothing (.word hc hdigit rfl)

lemma gap?_append_eq_none (h : gap? c rest = none) (hu : ∀ d ∈ u, isNeutral d = true) :
    gap? c (rest ++ u) = none := by
  unfold gap? at h
  split at h
  · cases h
  next hhash =>
  split at h
  · next hslash =>
    subst hslash
    have hfirst (d : Char) (t : List Char) (hd : d ≠ '/' ∧ d ≠ '*') : gap? '/' (d :: t) = none := by
      simp [gap?, hd.1, hd.2]
    cases rest with
    | nil =>
      cases u with
      | nil => rfl
      | cons d t =>
        have hd := hu d List.mem_cons_self
        exact hfirst d t
          ⟨ne_of_isNeutral hd (by decide +kernel), ne_of_isNeutral hd (by decide +kernel)⟩
    | cons d rest =>
      by_cases hline : d = '/'
      · subst hline
        cases h
      by_cases hblock : d = '*'
      · subst hblock
        have hopen := commentRest?_append_eq_none (Option.map_eq_none_iff.mp h)
          fun hmem => ne_of_isNeutral (hu _ hmem) (by decide +kernel) rfl
        simp [gap?, hopen]
      · exact hfirst d _ ⟨hline, hblock⟩
  · next hslash =>
    split at h
    · cases h
    · next hblank => exact gap?_eq_none (by simpa using hblank) hhash hslash

end Scanner

end DotBinding.Dot

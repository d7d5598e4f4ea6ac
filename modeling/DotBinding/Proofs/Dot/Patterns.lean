import DotBinding.Proofs.Dot.Slices
import Mathlib.Data.List.Infix

/-!
# The patterns of gaps and items

Comments as sets of texts, and what `gap?` finds in their terms: a blank, a comment up to the end of
its line, or a comment up to its first closing mark. Then the eight patterns, each as the set of
texts that match it. Splitting is stuck only where no pattern matches a beginning of the text.
-/

namespace DotBinding.Dot

open Scanner

/-! ## Comments -/

/-- A comment that goes on to the end of its line, without the line end. -/
inductive LineComment : List Char → Prop where
  | hash {body : List Char} (h : '\n' ∉ body) : LineComment ('#' :: body)
  | slashes {body : List Char} (h : '\n' ∉ body) : LineComment ('/' :: '/' :: body)

/-- A comment between marks, up to the first closing mark. -/
inductive BlockComment : List Char → Prop where
  | mk {body : List Char} (h : ¬['*', '/'] <:+: body) :
      BlockComment ('/' :: '*' :: (body ++ ['*', '/']))

namespace Scanner

variable {c : Char} {rest : List Char} {n : Nat}

lemma isSome_commentRest?_append (body rest : List Char) :
    (commentRest? (body ++ '*' :: '/' :: rest)).isSome = true := by
  induction body with
  | nil => rfl
  | cons d body ih =>
    rw [List.cons_append]
    unfold commentRest?
    split
    · rfl
    · next e more _ hcons =>
      obtain ⟨rfl, rfl⟩ := List.cons.inj hcons
      rwa [Option.isSome_map]
    · next hnil => cases hnil

lemma commentRest?_of_not_infix {body : List Char} (h : ¬['*', '/'] <:+: body)
    (rest : List Char) : commentRest? (body ++ '*' :: '/' :: rest) = some (body.length + 2) := by
  induction body with
  | nil => rfl
  | cons d body ih =>
    rw [List.infix_cons_iff, not_or] at h
    rw [List.cons_append, commentRest?, ih h.2]
    · rfl
    · intro more hd hmore
      cases body with
      | nil => exact absurd (List.cons.inj hmore).1 (by decide)
      | cons e body =>
        obtain ⟨rfl, -⟩ := List.cons.inj hmore
        subst hd
        exact h.1 ⟨body, rfl⟩

lemma exists_of_commentRest? {cs : List Char} {n : Nat} (h : commentRest? cs = some n) :
    ∃ body, cs.take n = body ++ ['*', '/'] ∧ ¬['*', '/'] <:+: body := by
  fun_induction commentRest? cs generalizing n with
  | case1 rest =>
    obtain rfl := Option.some.inj h
    exact ⟨[], rfl, by simp⟩
  | case2 d rest hne ih =>
    obtain ⟨m, hm, rfl⟩ := Option.map_eq_some_iff.mp h
    obtain ⟨body, hbody, hinfix⟩ := ih hm
    refine ⟨d :: body, by rw [List.take_succ_cons, hbody, List.cons_append], ?_⟩
    rw [List.infix_cons_iff, not_or]
    refine ⟨?_, hinfix⟩
    -- a closing mark at the first character would have ended the comment
    rintro ⟨more, hmore⟩
    obtain ⟨rfl, rfl⟩ := List.cons.inj hmore
    obtain ⟨behind, hbehind⟩ : ∃ behind, rest = '/' :: behind := by
      cases rest with
      | nil => simp at hbody
      | cons e rest =>
        cases m with
        | zero => simp at hbody
        | succ m =>
          rw [List.take_succ_cons] at hbody
          obtain ⟨rfl, -⟩ := List.cons.inj hbody
          exact ⟨rest, rfl⟩
    exact hne behind rfl hbehind
  | case3 => cases h

lemma lineLength_cons {d : Char} (h : d ≠ '\n') (rest : List Char) :
    lineLength (d :: rest) = lineLength rest + 1 := by
  rw [lineLength, List.takeWhile_cons_of_pos (by simpa using h)]
  rfl

lemma lineLength_eq {w : List Char} (hw : '\n' ∉ w) (hrest : ∀ d ∈ rest.head?, d = '\n') :
    lineLength (w ++ rest) = w.length := by
  cases rest with
  | nil => rw [List.append_nil, lineLength_of_not_mem hw]
  | cons d rest =>
    obtain rfl := hrest d rfl
    rw [lineLength_append (Or.inr rfl), lineLength_of_not_mem hw]

lemma not_mem_take_lineLength (rest : List Char) : '\n' ∉ rest.take (lineLength rest) := by
  intro hmem
  rw [lineLength, List.prefix_iff_eq_take.mp (List.takeWhile_prefix (· != '\n')) |>.symm] at hmem
  exact absurd (List.all_eq_true.mp List.all_takeWhile _ hmem) (by decide)

lemma head?_drop_lineLength (rest : List Char) :
    ∀ d ∈ (rest.drop (lineLength rest)).head?, d = '\n' := by
  induction rest with
  | nil => simp
  | cons e rest ih =>
    by_cases he : e = '\n'
    · subst he
      simp [lineLength]
    · rw [lineLength_cons he, List.drop_succ_cons]
      exact ih

/-- What is passed over at a place: blanks, a comment that its line ends, or a comment that its
closing mark ends. -/
lemma gap?_cases (h : gap? c rest = some n) :
    (∀ d ∈ c :: rest.take n, Text.isBlank d = true) ∨
    (LineComment (c :: rest.take n) ∧ ∀ d ∈ (rest.drop n).head?, d = '\n') ∨
    BlockComment (c :: rest.take n) := by
  by_cases hline : isLineComment c rest
  · rw [gap?_of_isLineComment hline] at h
    obtain rfl := Option.some.inj h
    have hbody := not_mem_take_lineLength rest
    refine Or.inr (Or.inl ⟨?_, head?_drop_lineLength rest⟩)
    rcases hline with rfl | ⟨rfl, hhead⟩
    · exact .hash hbody
    · obtain ⟨more, rfl⟩ := List.head?_eq_some_iff.mp hhead
      rw [lineLength_cons (by decide), List.take_succ_cons] at hbody ⊢
      exact .slashes fun hmem => hbody (List.mem_cons_of_mem _ hmem)
  · obtain ⟨hhash, hslashes⟩ := not_or.mp hline
    unfold gap? at h
    rw [if_neg hhash] at h
    split at h
    · next hslash =>
      subst hslash
      split at h
      · exact absurd ⟨rfl, rfl⟩ hslashes
      · next more =>
        obtain ⟨m, hm, rfl⟩ := Option.map_eq_some_iff.mp h
        obtain ⟨body, hbody, hinfix⟩ := exists_of_commentRest? hm
        rw [List.take_succ_cons, hbody]
        exact Or.inr (Or.inr (.mk hinfix))
      · cases h
    · split at h
      · next hblank =>
        obtain rfl := Option.some.inj h
        left
        rw [← List.prefix_iff_eq_take.mp (List.takeWhile_prefix _)]
        exact List.forall_mem_cons.mpr
          ⟨hblank, fun d hd => List.all_eq_true.mp List.all_takeWhile d hd⟩
      · cases h

lemma gap?_of_lineComment {w : List Char} (hw : LineComment (c :: w))
    (hrest : ∀ d ∈ rest.head?, d = '\n') : gap? c (w ++ rest) = some w.length := by
  cases hw with
  | hash hbody => rw [gap?_of_isLineComment (Or.inl rfl), lineLength_eq hbody hrest]
  | slashes hbody =>
    rw [gap?_of_isLineComment (Or.inr ⟨rfl, rfl⟩), lineLength_eq ?_ hrest]
    rw [List.mem_cons, not_or]
    exact ⟨by decide, hbody⟩

lemma gap?_of_blockComment {w : List Char} (hw : BlockComment (c :: w)) (rest : List Char) :
    gap? c (w ++ rest) = some w.length := by
  cases hw with
  | @mk body hbody =>
    have hclose := commentRest?_of_not_infix hbody rest
    simp [gap?, hclose]

end Scanner

/-! ## The patterns -/

/-- What is looked for at a place. -/
inductive Pattern where
  | lineComment
  | blockComment
  | blanks
  | quoted
  | edgeOp
  | numeral
  | mark
  | word
  deriving DecidableEq

/-- What may stand between quotes: no quote, unless it is behind a backslash. -/
inductive QuotedBody : List Char → Prop where
  | nil : QuotedBody []
  | plain {c : Char} {cs : List Char} (hquote : c ≠ '"') (hslash : c ≠ '\\') (h : QuotedBody cs) :
      QuotedBody (c :: cs)
  | escaped (c : Char) {cs : List Char} (h : QuotedBody cs) : QuotedBody ('\\' :: c :: cs)

/-- A numeral without a sign: digits, perhaps with a point and more digits behind them, or a point
with digits behind it. -/
inductive Unsigned : List Char → Prop where
  | whole {d : Char} {digits : List Char} (h : ∀ e ∈ d :: digits, Text.isDecimalDigit e = true) :
      Unsigned (d :: digits)
  | pointed {d : Char} {digits fraction : List Char}
      (h : ∀ e ∈ d :: digits, Text.isDecimalDigit e = true)
      (hfraction : ∀ e ∈ fraction, Text.isDecimalDigit e = true) :
      Unsigned (d :: digits ++ '.' :: fraction)
  | fraction {d : Char} {digits : List Char} (h : ∀ e ∈ d :: digits, Text.isDecimalDigit e = true) :
      Unsigned ('.' :: d :: digits)

/-- The texts that match a pattern. -/
def Pattern.Matches : Pattern → List Char → Prop
  | lineComment, w => LineComment w
  | blockComment, w => ∃ body, w = '/' :: '*' :: (body ++ ['*', '/'])
  | blanks, w => w ≠ [] ∧ ∀ c ∈ w, Text.isBlank c = true
  | quoted, w => ∃ body, QuotedBody body ∧ w = '"' :: (body ++ ['"'])
  | edgeOp, w => ∃ op : EdgeOp, w = op.text.toList
  | numeral, w => Unsigned w ∨ ∃ v, Unsigned v ∧ w = '-' :: v
  | mark, w => ∃ m : Mark, w = [m.char]
  | word, w => ∃ c v, isWordStart c = true ∧ (∀ d ∈ v, isWordPart d = true) ∧ w = c :: v

lemma QuotedBody.bodyLength? {body : List Char} (h : QuotedBody body) (rest : List Char) :
    bodyLength? (body ++ '"' :: rest) = some body.length := by
  induction h with
  | nil => rfl
  | plain hquote hslash _ ih =>
    rw [List.cons_append, Scanner.bodyLength?, ih]
    · rfl
    · exact hquote
    · exact fun _ _ hc => absurd hc hslash
  | escaped c _ ih =>
    rw [List.cons_append, List.cons_append, Scanner.bodyLength?, ih]
    rfl

lemma ne_sign_of_isDecimalDigit {d : Char} (h : Text.isDecimalDigit d = true) : d ≠ '-' := by
  rintro rfl
  exact absurd h (by decide +kernel)

lemma Numeral.length?_ne_none {d : Char} (hd : Text.isDecimalDigit d = true) (rest : List Char) :
    length? (d :: rest) ≠ none := by
  intro hnone
  rw [isDecimalDigit_of_length?_eq_none (ne_sign_of_isDecimalDigit hd) hnone] at hd
  cases hd

namespace Unsigned

lemma exists_cons {w : List Char} (h : Unsigned w) : ∃ d v, w = d :: v ∧ d ≠ '-' := by
  cases h with
  | whole h => exact ⟨_, _, rfl, ne_sign_of_isDecimalDigit (h _ List.mem_cons_self)⟩
  | pointed h => exact ⟨_, _, rfl, ne_sign_of_isDecimalDigit (h _ List.mem_cons_self)⟩
  | fraction => exact ⟨_, _, rfl, by decide⟩

lemma length?_ne_none {w : List Char} (h : Unsigned w) (rest : List Char) :
    Numeral.length? (w ++ rest) ≠ none := by
  cases h with
  | whole h => exact Numeral.length?_ne_none (h _ List.mem_cons_self) _
  | pointed h => exact Numeral.length?_ne_none (h _ List.mem_cons_self) _
  | @fraction d digits h =>
    have hd : Text.isDecimalDigit d = true := h d List.mem_cons_self
    have hpoint : Text.isDecimalDigit '.' = false := by decide +kernel
    simp [Numeral.length?, Numeral.unsignedLength?, Numeral.digitCount, hpoint, hd]

lemma signed_length?_ne_none {w : List Char} (h : Unsigned w) (rest : List Char) :
    Numeral.length? ('-' :: (w ++ rest)) ≠ none := by
  obtain ⟨d, v, rfl, hd⟩ := h.exists_cons
  have hlength := h.length?_ne_none rest
  rw [List.cons_append, Numeral.length?_of_ne hd] at hlength
  simpa [Numeral.length?] using hlength

end Unsigned

/-- Splitting is stuck only where no pattern matches. -/
lemma Pattern.not_matches_of_stuck {c : Char} {rest : List Char} (hgap : gap? c rest = none)
    (hitem : item? c rest = none) (p : Pattern) {w : List Char} (hw : w <+: c :: rest) :
    ¬p.Matches w := by
  have hnothing {l : Lexeme} {n : Nat} : ¬Begins c rest l n := by
    intro hbegins
    rw [hbegins.item?] at hitem
    cases hitem
  obtain ⟨more, hmore⟩ := hw
  intro h
  cases p with
  | lineComment =>
    have hline : isLineComment c rest := by
      cases h with
      | hash => exact Or.inl (List.cons.inj hmore).1.symm
      | slashes =>
        obtain ⟨rfl, rfl⟩ := List.cons.inj hmore
        exact Or.inr ⟨rfl, rfl⟩
    rw [gap?_of_isLineComment hline] at hgap
    cases hgap
  | blockComment =>
    obtain ⟨body, rfl⟩ := h
    obtain ⟨rfl, rfl⟩ := List.cons.inj hmore
    have hclose := isSome_commentRest?_append body more
    simp [gap?] at hgap
    simp [hgap] at hclose
  | blanks =>
    obtain ⟨hne, hblank⟩ := h
    obtain ⟨d, v, rfl⟩ := List.exists_cons_of_ne_nil hne
    obtain ⟨rfl, -⟩ := List.cons.inj hmore
    rw [gap?_of_isBlank (hblank d List.mem_cons_self)] at hgap
    cases hgap
  | quoted =>
    obtain ⟨body, hbody, rfl⟩ := h
    obtain ⟨rfl, rfl⟩ := List.cons.inj hmore
    have hclose : bodyLength? ((body ++ ['"']) ++ more) = some body.length := by
      rw [List.append_assoc]
      exact hbody.bodyLength? more
    exact hnothing (.quoted rfl hclose)
  | edgeOp =>
    obtain ⟨op, rfl⟩ := h
    exact hnothing (.edgeOp op hmore.symm)
  | numeral =>
    have hlength : Numeral.length? (c :: rest) ≠ none := by
      rw [← hmore]
      rcases h with hw | ⟨v, hv, rfl⟩
      · exact hw.length?_ne_none more
      · exact hv.signed_length?_ne_none more
    obtain ⟨n, hn⟩ := Option.ne_none_iff_exists'.mp hlength
    exact hnothing (.numeral hn)
  | mark =>
    obtain ⟨m, rfl⟩ := h
    exact hnothing (.mark (List.cons.inj hmore).1.symm)
  | word =>
    obtain ⟨d, v, hd, -, rfl⟩ := h
    obtain ⟨rfl, -⟩ := List.cons.inj hmore
    cases hdigit : Text.isDecimalDigit d with
    | false => exact hnothing (.word hd hdigit rfl)
    | true =>
      obtain ⟨n, hn⟩ := Option.ne_none_iff_exists'.mp (Numeral.length?_ne_none hdigit rest)
      exact hnothing (.numeral hn)

end DotBinding.Dot

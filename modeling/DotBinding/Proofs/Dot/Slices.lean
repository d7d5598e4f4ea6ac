import DotBinding.Proofs.Dot.Appending

/-!
# Items as slices of a text

The characters of an item are those that it takes from the text, and it depends on no others: cut
off behind them, the text begins with the same item. So an item is found again in front of anything
that does not go on with it.
-/

namespace DotBinding.Dot

lemma takeWhile_take {p : Char → Bool} {cs : List Char} {n : Nat}
    (h : (cs.takeWhile p).length ≤ n) : (cs.take n).takeWhile p = cs.takeWhile p := by
  induction cs generalizing n with
  | nil => rw [List.take_nil]
  | cons c rest ih =>
    cases n with
    | zero => rw [List.take_zero, List.length_eq_zero_iff.mp (Nat.le_zero.mp h), List.takeWhile_nil]
    | succ n =>
      rw [List.take_succ_cons, List.takeWhile_cons, List.takeWhile_cons]
      split
      · next hc =>
        rw [List.takeWhile_cons_of_pos hc] at h
        rw [ih (Nat.le_of_succ_le_succ h)]
      · rfl

namespace Numeral

lemma digitCount_take {cs : List Char} {n : Nat} (h : digitCount cs ≤ n) :
    digitCount (cs.take n) = digitCount cs := by
  rw [digitCount, takeWhile_take h]
  rfl

lemma unsignedLength?_take {cs : List Char} {n m : Nat} (h : unsignedLength? cs = some n)
    (hm : n ≤ m) : unsignedLength? (cs.take m) = some n := by
  have hwhole : digitCount (cs.take m) = digitCount cs :=
    digitCount_take (Nat.le_trans (unsignedLength?_le h).1 hm)
  have hdrop : (cs.take m).drop (digitCount cs) =
      (cs.drop (digitCount cs)).take (m - digitCount cs) := List.drop_take
  simp only [unsignedLength?, hwhole, hdrop]
  simp only [unsignedLength?] at h
  split at h
  · next fraction hpoint =>
    split at h
    · cases h
    next hsome =>
    obtain rfl := Option.some.inj h
    -- what is left of the text behind its digits begins with the point and the whole fraction
    obtain ⟨k, hk⟩ : ∃ k, m - digitCount cs = k + 1 := ⟨m - digitCount cs - 1, by omega⟩
    have hfraction : digitCount (fraction.take k) = digitCount fraction :=
      digitCount_take (by omega)
    rw [hpoint, hk, List.take_succ_cons]
    simp only [hfraction, hsome, if_false]
  · next hpoint =>
    split at h
    · cases h
    next hsome =>
    obtain rfl := Option.some.inj h
    split
    · next fraction hcut =>
      obtain ⟨t, ht⟩ := List.take_prefix (m - digitCount cs) (cs.drop (digitCount cs))
      rw [hcut] at ht
      exact absurd ht.symm (hpoint _)
    · rw [if_neg hsome]

/-- A numeral is made of digits, points and signs. -/
lemma mem_take_unsignedLength? {cs : List Char} {n : Nat} (h : unsignedLength? cs = some n)
    {d : Char} (hd : d ∈ cs.take n) : Text.isDecimalDigit d = true ∨ d = '.' := by
  have hdigits (w : List Char) {e : Char} (he : e ∈ w.take (digitCount w)) :
      Text.isDecimalDigit e = true := by
    rw [digitCount, ← List.prefix_iff_eq_take.mp (List.takeWhile_prefix _)] at he
    exact List.all_eq_true.mp List.all_takeWhile e he
  simp only [unsignedLength?] at h
  split at h
  · next fraction hpoint =>
    split at h
    · cases h
    obtain rfl := Option.some.inj h
    rw [Nat.add_assoc, List.take_add, hpoint, Nat.add_comm 1, List.take_succ_cons,
      List.mem_append, List.mem_cons] at hd
    rcases hd with hwhole | rfl | hfraction
    · exact Or.inl (hdigits cs hwhole)
    · exact Or.inr rfl
    · exact Or.inl (hdigits fraction hfraction)
  · split at h
    · cases h
    obtain rfl := Option.some.inj h
    exact Or.inl (hdigits cs hd)

lemma mem_take_length? {cs : List Char} {n : Nat} (h : length? cs = some n) {d : Char}
    (hd : d ∈ cs.take n) : Text.isDecimalDigit d = true ∨ d = '.' ∨ d = '-' := by
  unfold length? at h
  split at h
  · obtain ⟨k, hk, rfl⟩ := Option.map_eq_some_iff.mp h
    rw [List.take_succ_cons, List.mem_cons] at hd
    rcases hd with rfl | hd
    · exact Or.inr (Or.inr rfl)
    · exact (mem_take_unsignedLength? hk hd).imp_right Or.inl
  · exact (mem_take_unsignedLength? h hd).imp_right Or.inl

lemma unsignedLength?_pos {cs : List Char} {n : Nat} (h : unsignedLength? cs = some n) : 0 < n := by
  simp only [unsignedLength?] at h
  split at h <;> split at h <;> simp at h <;> omega

lemma length?_pos {cs : List Char} {n : Nat} (h : length? cs = some n) : 0 < n := by
  unfold length? at h
  split at h
  · obtain ⟨m, -, rfl⟩ := Option.map_eq_some_iff.mp h
    exact Nat.succ_pos m
  · exact unsignedLength?_pos h

lemma length?_take {c : Char} {rest : List Char} {n m : Nat} (h : length? (c :: rest) = some n)
    (hm : n ≤ m + 1) : length? (c :: rest.take m) = some n := by
  by_cases hc : c = '-'
  · subst hc
    obtain ⟨k, hk, rfl⟩ := Option.map_eq_some_iff.mp h
    rw [length?, unsignedLength?_take hk (Nat.le_of_succ_le_succ hm)]
    rfl
  · rw [length?_of_ne hc] at h ⊢
    rw [← List.take_succ_cons]
    exact unsignedLength?_take h hm

end Numeral

namespace Scanner

variable {c : Char} {rest u : List Char} {l : Lexeme} {n : Nat}

lemma bodyLength?_take {cs : List Char} {n m : Nat} (h : bodyLength? cs = some n) (hm : n < m) :
    bodyLength? (cs.take m) = some n := by
  fun_induction bodyLength? cs generalizing n m with
  | case1 rest =>
    obtain ⟨m, rfl⟩ := Nat.exists_eq_add_of_lt hm
    exact h
  | case2 d rest ih =>
    obtain ⟨k, hk, rfl⟩ := Option.map_eq_some_iff.mp h
    obtain ⟨m, rfl⟩ : ∃ j, m = j + 2 := ⟨m - 2, by omega⟩
    rw [List.take_succ_cons, List.take_succ_cons, bodyLength?, ih hk (by omega)]
    rfl
  | case3 d rest hquote hslash ih =>
    obtain ⟨k, hk, rfl⟩ := Option.map_eq_some_iff.mp h
    obtain ⟨m, rfl⟩ : ∃ j, m = j + 1 := ⟨m - 1, by omega⟩
    rw [List.take_succ_cons, bodyLength?, ih hk (by omega)]
    · rfl
    · exact hquote
    · intro e more hd hmore
      cases rest with
      | nil => cases hk
      | cons f rest => exact hslash f rest hd rfl
  | case4 => cases h

lemma take_bodyLength? {cs : List Char} {n : Nat} (h : bodyLength? cs = some n) :
    cs.take (n + 1) = cs.take n ++ ['"'] := by
  fun_induction bodyLength? cs generalizing n with
  | case1 rest =>
    obtain rfl := Option.some.inj h
    rfl
  | case2 d rest ih =>
    obtain ⟨m, hm, rfl⟩ := Option.map_eq_some_iff.mp h
    simp only [List.take_succ_cons, ih hm, List.cons_append]
  | case3 d rest _ _ ih =>
    obtain ⟨m, hm, rfl⟩ := Option.map_eq_some_iff.mp h
    simp only [List.take_succ_cons, ih hm, List.cons_append]
  | case4 => cases h

/-- The characters of an item are the first one and as many behind it as the item takes. -/
lemma text_of_item? (h : item? c rest = some (l, n)) : l.text.toList = c :: rest.take n := by
  cases Begins.of_item? h with
  | quoted hc hn =>
    subst hc
    rw [take_bodyLength? hn]
    simp [Lexeme.text, sliceOf, String.toList_append]
  | edgeOp op hop =>
    cases op <;> obtain ⟨rfl, rfl⟩ := List.cons.inj hop <;> rfl
  | @numeral m hn =>
    obtain ⟨k, rfl⟩ := Nat.exists_eq_succ_of_ne_zero (Nat.ne_of_gt (Numeral.length?_pos hn))
    rw [Lexeme.text, sliceOf, String.toList_ofList]
    rfl
  | mark hc =>
    subst hc
    rw [Lexeme.text, Mark.text, String.toList_singleton]
    rfl
  | word =>
    rw [Lexeme.text, sliceOf, String.toList_ofList]
    rfl

/-- An item depends only on its own characters: it stays when the text is cut behind them. -/
lemma item?_take {m : Nat} (h : item? c rest = some (l, n)) (hm : n ≤ m) :
    item? c (rest.take m) = some (l, n) := by
  have hslice {k : Nat} (hk : k ≤ n + 1) :
      sliceOf (c :: rest.take m) k = sliceOf (c :: rest) k := by
    rw [sliceOf, sliceOf, ← List.take_succ_cons, List.take_take, Nat.min_eq_left (by omega)]
  apply Begins.item?
  cases Begins.of_item? h with
  | @quoted k hc hn =>
    have hbody : sliceOf (rest.take m) k = sliceOf rest k := by
      rw [sliceOf, sliceOf, List.take_take, Nat.min_eq_left (by omega)]
    rw [← hbody]
    exact .quoted hc (bodyLength?_take hn hm)
  | edgeOp op hop =>
    obtain ⟨m, rfl⟩ : ∃ j, m = j + 1 := ⟨m - 1, by omega⟩
    cases op <;> obtain ⟨rfl, rfl⟩ := List.cons.inj hop
    · exact Begins.edgeOp .arrow rfl
    · exact Begins.edgeOp .line rfl
  | @numeral k hn =>
    have hpos := Numeral.length?_pos hn
    rw [← hslice (by omega)]
    exact .numeral (Numeral.length?_take hn (by omega))
  | mark hc => exact .mark hc
  | word hc hdigit hn =>
    rw [← hslice (Nat.le_refl _)]
    refine .word hc hdigit ?_
    rw [takeWhile_take (by omega), hn]

/-- An item is found again in front of nothing, or of anything that does not go on with it. -/
lemma item?_take_append (h : item? c rest = some (l, n))
    (hu : u = [] ∨ ∃ d t, u = d :: t ∧ isStop d = true) :
    item? c (rest.take n ++ u) = some (l, n) := by
  rcases hu with rfl | hstop
  · rw [List.append_nil, item?_take h (Nat.le_refl n)]
  · exact item?_append (item?_take h (Nat.le_refl n)) (Or.inr hstop)

/-- One character behind an item is enough to find it again, whatever comes after that. -/
lemma item?_take_cons {d : Char} (h : item? c rest = some (l, n))
    (hd : (rest.drop n).head? = some d) (t : List Char) :
    item? c (rest.take n ++ d :: t) = some (l, n) := by
  obtain ⟨more, hmore⟩ := List.head?_eq_some_iff.mp hd
  have htake : rest.take (n + 1) = rest.take n ++ [d] := by
    rw [List.take_add, hmore]
    rfl
  have hlength : n < (rest.take (n + 1)).length := by
    rw [htake, List.length_append, List.length_take_of_le (item?_le h)]
    exact Nat.lt_succ_self n
  have happend := item?_append (u := t) (item?_take h (Nat.le_succ n)) (Or.inl hlength)
  rwa [htake, List.append_assoc] at happend

end Scanner

end DotBinding.Dot

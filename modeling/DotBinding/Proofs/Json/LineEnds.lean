import DotBinding.CommandLine.Run
import DotBinding.Proofs.Json.Reading
import DotBinding.Proofs.Json.Texts

/-!
# Line ends in JSON

A JSON text that is read is read as the same value with one line end for all. Between items line
ends are blanks, and no item is written with one that would change: a text must not hold one as it
is, and words and numbers end in front of it.
-/

namespace DotBinding

namespace CommandLine

lemma normalizeLines_cons {c : Char} (h : c ≠ '\r') (rest : List Char) :
    normalizeLines (c :: rest) = c :: normalizeLines rest := by
  rw [normalizeLines]
  · rintro _ rfl
    exact absurd rfl h
  · exact h

/-- A character other than a line end at the start of a text was there before. -/
lemma exists_of_normalizeLines_eq_cons {cs more : List Char} {d : Char} (hd : d ≠ '\n')
    (h : normalizeLines cs = d :: more) : ∃ rest, cs = d :: rest ∧ more = normalizeLines rest := by
  cases cs using normalizeLines.fun_cases with
  | case1 rest | case2 rest =>
    rw [normalizeLines] at h
    · exact absurd (List.cons.inj h).1.symm hd
    all_goals assumption
  | case3 c rest _ hc =>
    rw [normalizeLines_cons hc] at h
    obtain ⟨rfl, rfl⟩ := List.cons.inj h
    exact ⟨rest, rfl, rfl⟩
  | case4 =>
    rw [normalizeLines] at h
    cases h

lemma length_normalizeLines_le (cs : List Char) : (normalizeLines cs).length ≤ cs.length := by
  induction cs using normalizeLines.induct with
  | case1 rest ih =>
    rw [normalizeLines, List.length_cons, List.length_cons, List.length_cons]
    omega
  | case2 rest hrest ih =>
    rw [normalizeLines, List.length_cons, List.length_cons]
    · omega
    · exact hrest
  | case3 c rest _ hc ih =>
    rw [normalizeLines_cons hc, List.length_cons, List.length_cons]
    omega
  | case4 => rw [normalizeLines]

lemma take_normalizeLines {n : Nat} {cs : List Char} (h : '\r' ∉ cs.take n) :
    (normalizeLines cs).take n = cs.take n := by
  induction n generalizing cs with
  | zero => rfl
  | succ n ih =>
    cases cs with
    | nil => rfl
    | cons c rest =>
      rw [List.take_succ_cons, List.mem_cons, not_or] at h
      rw [normalizeLines_cons (Ne.symm h.1), List.take_succ_cons, List.take_succ_cons, ih h.2]

lemma drop_normalizeLines {n : Nat} {cs : List Char} (h : '\r' ∉ cs.take n) :
    (normalizeLines cs).drop n = normalizeLines (cs.drop n) := by
  induction n generalizing cs with
  | zero => rfl
  | succ n ih =>
    cases cs with
    | nil => rfl
    | cons c rest =>
      rw [List.take_succ_cons, List.mem_cons, not_or] at h
      rw [normalizeLines_cons (Ne.symm h.1), List.drop_succ_cons, List.drop_succ_cons, ih h.2]

lemma isEmpty_normalizeLines (cs : List Char) : (normalizeLines cs).isEmpty = cs.isEmpty := by
  cases cs using normalizeLines.fun_cases with
  | case1 rest | case2 rest =>
    rw [normalizeLines]
    · rfl
    all_goals assumption
  | case3 c rest _ hc =>
    rw [normalizeLines_cons hc]
    rfl
  | case4 => rfl

lemma normalizeLines_eq_self {cs : List Char} (h : '\r' ∉ cs) : normalizeLines cs = cs := by
  induction cs with
  | nil => rfl
  | cons c rest ih =>
    rw [List.mem_cons, not_or] at h
    rw [normalizeLines_cons (Ne.symm h.1), ih h.2]

end CommandLine

namespace Json

open CommandLine

/-! ## Texts -/

lemma isSome_hexadecimalDigit?_of_mem {cs : List Char} {n : Nat}
    (h : Text.ofHexadecimal? cs = some n) : ∀ c ∈ cs, (Text.hexadecimalDigit? c).isSome := by
  have hfold (start : Nat) (hstart : cs.foldlM (fun n c =>
      (Text.hexadecimalDigit? c).map (n * 16 + ·)) start = some n) :
      ∀ c ∈ cs, (Text.hexadecimalDigit? c).isSome := by
    clear h
    induction cs generalizing start with
    | nil => simp
    | cons c rest ih =>
      rw [List.foldlM_cons] at hstart
      cases hc : Text.hexadecimalDigit? c with
      | none =>
        rw [hc] at hstart
        cases hstart
      | some d =>
        rw [hc] at hstart
        exact List.forall_mem_cons.mpr ⟨by rw [hc]; rfl, ih _ hstart⟩
  exact hfold 0 h

lemma unit?_normalizeLines {cs : List Char} {unit : Nat} (h : unit? cs = some unit) :
    '\r' ∉ cs.take 4 ∧ unit? (normalizeLines cs) = some unit := by
  unfold unit? at h ⊢
  split at h
  · cases h
  · next hmore =>
    have hplain : '\r' ∉ cs.take 4 := by
      intro hmem
      have := isSome_hexadecimalDigit?_of_mem h '\r' hmem
      revert this
      decide
    refine ⟨hplain, ?_⟩
    rw [drop_normalizeLines hplain, isEmpty_normalizeLines, if_neg hmore,
      take_normalizeLines hplain, h]

lemma unitEscape?_normalizeLines {unit : Nat} {cs : List Char} {r : Char × Nat}
    (h : unitEscape? unit cs = some r) :
    '\r' ∉ cs.take r.2 ∧ unitEscape? unit (normalizeLines cs) = some r := by
  by_cases hpair : ∃ more, cs = '\\' :: 'u' :: more
  · obtain ⟨more, rfl⟩ := hpair
    rw [normalizeLines_cons (by decide), normalizeLines_cons (by decide)]
    rw [unitEscape?] at h ⊢
    split at h
    · next hlow =>
      obtain ⟨low, hunit, hr⟩ := Option.map_eq_some_iff.mp h
      obtain ⟨hplain, hunit'⟩ := unit?_normalizeLines hunit
      rw [drop_normalizeLines hplain, isEmpty_normalizeLines, if_pos hlow, hunit', Option.map_some,
        hr]
      refine ⟨?_, rfl⟩
      split at hr
      · subst hr
        simpa using hplain
      · subst hr
        simp
    · next hlow =>
      cases h
      refine ⟨by simp, if_neg ?_⟩
      have hlength := length_normalizeLines_le more
      simp only [Bool.and_eq_true, Bool.not_eq_true', List.isEmpty_eq_false_iff, ne_eq,
        List.drop_eq_nil_iff, not_and, not_not] at hlow ⊢
      exact fun hhigh => hlength.trans (hlow hhigh)
  · have hother : ∀ more, cs ≠ '\\' :: 'u' :: more := fun more heq => hpair ⟨more, heq⟩
    rw [unitEscape?_of_not_pair hother] at h
    cases h
    refine ⟨by simp, unitEscape?_of_not_pair ?_ unit⟩
    intro more heq
    obtain ⟨rest, rfl, hrest⟩ := exists_of_normalizeLines_eq_cons (by decide) heq
    obtain ⟨rest', rfl, -⟩ := exists_of_normalizeLines_eq_cons (by decide) hrest.symm
    exact hother rest' rfl

lemma escape?_normalizeLines {cs : List Char} {r : Char × Nat} (h : escape? cs = .ok r) :
    '\r' ∉ cs.take r.2 ∧ escape? (normalizeLines cs) = .ok r := by
  cases cs with
  | nil => cases h
  | cons c rest =>
    rcases escape?_cons_iff.mp h with ⟨rfl, unit, d, n, hunit, hescape, rfl⟩ | ⟨hc, d, hshort, rfl⟩
    · obtain ⟨hplain, hunit'⟩ := unit?_normalizeLines hunit
      obtain ⟨hmore, hescape'⟩ := unitEscape?_normalizeLines hescape
      rw [← drop_normalizeLines hplain] at hescape'
      rw [normalizeLines_cons (by decide), escape?_cons_iff]
      refine ⟨?_, Or.inl ⟨rfl, unit, d, n, hunit', hescape', rfl⟩⟩
      rw [Nat.add_comm, List.take_succ_cons, Nat.add_comm, List.take_add]
      simp [hplain, hmore]
    · have hplain : c ≠ '\r' := by
        rintro rfl
        cases hshort
      rw [normalizeLines_cons hplain, escape?_cons_iff]
      exact ⟨by simpa using Ne.symm hplain, Or.inr ⟨hc, d, hshort, rfl⟩⟩

lemma not_mem_take_cons {c : Char} {rest : List Char} {taken n : Nat} (hc : c ≠ '\r')
    (htaken : taken + 1 ≤ n) (h : '\r' ∉ rest.take (n + 1 - (taken + 1))) :
    '\r' ∉ (c :: rest).take (n + 1 - taken) := by
  rw [show n + 1 - taken = n + 1 - (taken + 1) + 1 by omega, List.take_succ_cons, List.mem_cons,
    not_or]
  exact ⟨Ne.symm hc, h⟩

lemma readText_normalizeLines {taken skip : Nat} {cs : List Char} {r : List Char × Nat}
    (hskip : '\r' ∉ cs.take skip) (h : readText taken skip cs = .ok r) :
    taken ≤ r.2 ∧ '\r' ∉ cs.take (r.2 + 1 - taken) ∧
      readText taken skip (normalizeLines cs) = .ok r := by
  induction cs generalizing taken skip r with
  | nil => cases skip <;> cases h
  | cons c rest ih =>
    cases skip with
    | succ skip =>
      rw [List.take_succ_cons, List.mem_cons, not_or] at hskip
      have hc : c ≠ '\r' := Ne.symm hskip.1
      obtain ⟨htaken, hplain, hread⟩ := ih hskip.2 h
      rw [normalizeLines_cons hc]
      exact ⟨Nat.le_of_succ_le htaken, not_mem_take_cons hc htaken hplain, hread⟩
    | zero =>
      cases readText_cons_iff.mp h with
      | quote =>
        rw [normalizeLines_cons (by decide), readText_cons_iff]
        exact ⟨le_rfl, by simp, .quote⟩
      | escape hescape hread =>
        obtain ⟨hbehind, hescape'⟩ := escape?_normalizeLines hescape
        obtain ⟨htaken, hplain, hread'⟩ := ih hbehind hread
        rw [normalizeLines_cons (by decide), readText_cons_iff]
        exact ⟨Nat.le_of_succ_le htaken, not_mem_take_cons (by decide) htaken hplain,
          .escape hescape' hread'⟩
      | plain hquote hslash hcontrol hread =>
        have hc : c ≠ '\r' := by
          rintro rfl
          exact hcontrol (by decide)
        obtain ⟨htaken, hplain, hread'⟩ := ih (by simp) hread
        rw [normalizeLines_cons hc, readText_cons_iff]
        exact ⟨Nat.le_of_succ_le htaken, not_mem_take_cons hc htaken hplain,
          .plain hquote hslash hcontrol hread'⟩

/-! ## Steps and whole texts -/

lemma scalarPart_normalizeLines (cs : List Char) :
    scalarPart (normalizeLines cs) = scalarPart cs := by
  induction cs using normalizeLines.induct with
  | case1 rest ih => rfl
  | case2 rest hrest ih =>
    rw [normalizeLines]
    · rfl
    · exact hrest
  | case3 c rest _ hc ih =>
    rw [normalizeLines_cons hc]
    by_cases hpart : isScalarPart c = true
    · rw [scalarPart_cons hpart, scalarPart_cons hpart, ih]
    · rw [scalarPart_cons_of_not hpart, scalarPart_cons_of_not hpart]
  | case4 => rfl

lemma step_normalizeLines {p next : Point} {c : Char} {rest : List Char} {n : Nat}
    (h : p.step c rest = .ok (next, n)) :
    '\r' ∉ rest.take n ∧ p.step c (normalizeLines rest) = .ok (next, n) := by
  cases p.takes c with
  | mark next' hstep _ =>
    rw [hstep] at h ⊢
    cases h
    exact ⟨by simp, rfl⟩
  | text next' hstep _ =>
    rw [hstep, Point.takeText] at h
    rw [hstep, Point.takeText]
    split at h
    · next cs m hread =>
      obtain ⟨-, hplain, hread'⟩ := readText_normalizeLines (by simp) hread
      cases h
      rw [hread']
      exact ⟨hplain, rfl⟩
    · cases h
  | scalar nest hstep _ =>
    rw [hstep, ← Point.takeScalar_scalarPart] at h
    rw [hstep, ← Point.takeScalar_scalarPart, scalarPart_normalizeLines]
    refine ⟨?_, h⟩
    have hlength := Point.le_length_of_takeScalar h
    obtain ⟨behind, hbehind⟩ : scalarPart rest <+: rest := List.takeWhile_prefix _
    rw [← hbehind, List.take_append_of_le_length hlength]
    intro hmem
    have hpart := List.all_eq_true.mp List.all_takeWhile _ (List.mem_of_mem_take hmem)
    cases hpart
  | nothing hstep =>
    rw [hstep] at h
    cases h

lemma readFrom_blank {c : Char} (h : isBlank c = true) (offset : Nat) (p : Point)
    (rest : List Char) : readFrom offset p 0 (c :: rest) = readFrom (offset + 1) p 0 rest := by
  rw [readFrom, if_pos h]

lemma readFrom_normalizeLines {offset : Nat} {p : Point} {skip : Nat} {cs : List Char} {v : Value}
    (hskip : '\r' ∉ cs.take skip) (h : readFrom offset p skip cs = .ok v) (offset' : Nat) :
    readFrom offset' p skip (normalizeLines cs) = .ok v := by
  induction cs using normalizeLines.induct generalizing offset offset' p skip with
  | case1 rest ih =>
    cases skip with
    | succ skip => simp at hskip
    | zero =>
      rw [readFrom_blank rfl, readFrom_blank rfl] at h
      rw [normalizeLines, readFrom_blank rfl]
      exact ih (by simp) h _
  | case2 rest hrest ih =>
    cases skip with
    | succ skip => simp at hskip
    | zero =>
      rw [readFrom_blank rfl] at h
      rw [normalizeLines, readFrom_blank rfl]
      · exact ih (by simp) h _
      · exact hrest
  | case3 c rest _ hc ih =>
    rw [normalizeLines_cons hc]
    cases skip with
    | succ skip =>
      rw [List.take_succ_cons, List.mem_cons, not_or] at hskip
      exact ih hskip.2 h _
    | zero =>
      rw [readFrom_cons_iff] at h ⊢
      rcases h with ⟨hblank, hread⟩ | ⟨hother, next, n, hstep, hread⟩
      · exact Or.inl ⟨hblank, ih (by simp) hread _⟩
      · obtain ⟨hplain, hstep'⟩ := step_normalizeLines hstep
        exact Or.inr ⟨hother, next, n, hstep', ih hplain hread _⟩
  | case4 =>
    unfold readFrom at h
    split at h
    · exact h
    · cases h

/-- What is read from a text is read from it with one line end for all. -/
theorem read_normalizeLines {cs : List Char} {v : Value} (h : read cs = .ok v) :
    read (normalizeLines cs) = .ok v := by
  unfold read at h ⊢
  split at h
  · cases h
  · next hmark =>
    rw [if_neg]
    · exact readFrom_normalizeLines (by simp) h 0
    · intro hmark'
      cases hlines : normalizeLines cs with
      | nil =>
        rw [hlines] at hmark'
        cases hmark'
      | cons c more =>
        rw [hlines] at hmark'
        obtain rfl := Option.some.inj hmark'
        obtain ⟨rest, rfl, -⟩ := exists_of_normalizeLines_eq_cons (by decide) hlines
        exact hmark rfl

end Json

end DotBinding

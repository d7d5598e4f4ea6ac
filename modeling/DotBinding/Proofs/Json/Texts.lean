import DotBinding.Json.Reader
import DotBinding.Json.Writer
import Mathlib.Tactic.Lemma

/-!
# Texts in JSON

A text that is written in JSON is read back, whatever stands behind it: with all but printable ASCII
escaped, characters of two units among it, or with no more escaped than has to be.
-/

namespace DotBinding.Json

/-! ## Escapes -/

lemma unitEscape?_of_not_pair {cs : List Char} (h : ∀ more, cs ≠ '\\' :: 'u' :: more)
    (unit : Nat) : unitEscape? unit cs = some (unitChar unit, 0) := by
  rw [unitEscape?]
  exact h

lemma unitEscape?_of_not_isHighHalf {unit : Nat} (h : isHighHalf unit = false) (cs : List Char) :
    unitEscape? unit cs = some (unitChar unit, 0) := by
  by_cases hpair : ∃ more, cs = '\\' :: 'u' :: more
  · obtain ⟨more, rfl⟩ := hpair
    rw [unitEscape?, h, Bool.false_and, if_neg Bool.false_ne_true]
  · exact unitEscape?_of_not_pair (not_exists.mp hpair) unit

/-- An escape goes by a unit, or it is one of a character. -/
lemma escape?_cons_iff {c : Char} {rest : List Char} {r : Char × Nat} :
    escape? (c :: rest) = .ok r ↔
      (c = 'u' ∧ ∃ unit d n, unit? rest = some unit ∧
        unitEscape? unit (rest.drop 4) = some (d, n) ∧ r = (d, 5 + n)) ∨
      c ≠ 'u' ∧ ∃ d, shortEscape? c = some d ∧ r = (d, 1) := by
  unfold escape?
  split
  · next heq => cases heq
  · next heq =>
    obtain ⟨rfl, rfl⟩ := List.cons.inj heq
    split
    · next hunit => simp [hunit]
    · next unit hunit =>
      split
      · next hescape => simp [hunit, hescape]
      · next hescape => simp [hunit, hescape, eq_comm, and_assoc]
  · next hother heq =>
    obtain ⟨rfl, rfl⟩ := List.cons.inj heq
    have hunicode : c ≠ 'u' := fun h => hother h
    split
    · next hshort => simp [hunicode, hshort, eq_comm]
    · next hshort => simp [hunicode, hshort]

lemma unit?_hexadecimal {n : Nat} (h : n < 0x10000) {more : List Char} (hmore : more ≠ []) :
    unit? (Text.hexadecimal 4 n ++ more) = some n := by
  rw [unit?, List.drop_left' (Text.length_hexadecimal 4 n),
    List.take_left' (Text.length_hexadecimal 4 n), if_neg (by simpa using hmore)]
  exact Text.ofHexadecimal?_hexadecimal h

/-- An escape that goes by the unit is read as the character of the unit. -/
lemma escape?_unit {n : Nat} (h : n < 0x10000) (hhalf : isHighHalf n = false) {more : List Char}
    (hmore : more ≠ []) :
    escape? ('u' :: (Text.hexadecimal 4 n ++ more)) = .ok (unitChar n, 5) := by
  rw [escape?, unit?_hexadecimal h hmore]
  dsimp only
  rw [unitEscape?_of_not_isHighHalf hhalf]

lemma escape?_pair {high low : Nat} (hhigh : isHighHalf high = true) (hlow : isLowHalf low = true)
    {more : List Char} (hmore : more ≠ []) :
    escape? ('u' :: (Text.hexadecimal 4 high ++ (unitEscape low ++ more))) =
      .ok (joinHalves high low, 11) := by
  have hhigh' := hhigh
  have hlow' := hlow
  simp only [isHighHalf, isLowHalf, Bool.and_eq_true, decide_eq_true_eq] at hhigh' hlow'
  have hbehind : (Text.hexadecimal 4 low ++ more).drop 4 = more :=
    List.drop_left' (Text.length_hexadecimal 4 low)
  have hunit : unitEscape? high (unitEscape low ++ more) = some (joinHalves high low, 6) := by
    rw [unitEscape, List.cons_append, List.cons_append, unitEscape?, hhigh, hbehind, if_pos,
      unit?_hexadecimal (by omega) hmore, Option.map_some, if_pos hlow]
    simpa using hmore
  rw [escape?, unit?_hexadecimal (by omega) (by simp [unitEscape])]
  dsimp only
  rw [List.drop_left' (Text.length_hexadecimal 4 high), hunit]

lemma unitChar_toNat (c : Char) : unitChar c.toNat = c := by
  have hvalid : c.toNat.isValidChar := c.valid
  unfold Nat.isValidChar at hvalid
  rw [unitChar, if_neg (by omega), Char.ofNat_toNat]

lemma escape?_codeEscape (c : Char) {more : List Char} (hmore : more ≠ []) :
    ∃ code, codeEscape c.toNat = '\\' :: code ∧
      escape? (code ++ more) = .ok (c, code.length) := by
  have hvalid : c.toNat.isValidChar := c.valid
  unfold Nat.isValidChar at hvalid
  unfold codeEscape
  split
  · next hsmall =>
    refine ⟨_, rfl, ?_⟩
    have hhalf : isHighHalf c.toNat = false := by
      simp only [isHighHalf, Bool.and_eq_false_iff, decide_eq_false_iff_not]
      omega
    rw [List.cons_append, escape?_unit hsmall hhalf hmore, unitChar_toNat, List.length_cons,
      Text.length_hexadecimal]
  · next hlarge =>
    refine ⟨'u' :: (Text.hexadecimal 4 (0xd800 + (c.toNat - 0x10000) / 0x400) ++
      unitEscape (0xdc00 + (c.toNat - 0x10000) % 0x400)), rfl, ?_⟩
    have hhigh : isHighHalf (0xd800 + (c.toNat - 0x10000) / 0x400) = true := by
      simp only [isHighHalf, Bool.and_eq_true, decide_eq_true_eq]
      omega
    have hlow : isLowHalf (0xdc00 + (c.toNat - 0x10000) % 0x400) = true := by
      simp only [isLowHalf, Bool.and_eq_true, decide_eq_true_eq]
      omega
    have hjoin : joinHalves (0xd800 + (c.toNat - 0x10000) / 0x400)
        (0xdc00 + (c.toNat - 0x10000) % 0x400) = c := by
      rw [joinHalves, show 0x10000 + (0xd800 + (c.toNat - 0x10000) / 0x400 - 0xd800) * 0x400 +
        (0xdc00 + (c.toNat - 0x10000) % 0x400 - 0xdc00) = c.toNat by omega, Char.ofNat_toNat]
    rw [List.cons_append, List.append_assoc, escape?_pair hhigh hlow hmore, hjoin]
    simp [Text.length_hexadecimal, unitEscape]

/-- A character is written as it is, or as an escape that is read as it. -/
lemma escapeChar_cases (ascii : Bool) (c : Char) :
    (escapeChar ascii c = [c] ∧ c ≠ '"' ∧ c ≠ '\\' ∧ ¬c.toNat < 0x20) ∨
      ∀ more, more ≠ [] → ∃ code, escapeChar ascii c = '\\' :: code ∧
        escape? (code ++ more) = .ok (c, code.length) := by
  unfold escapeChar
  split
  · next h =>
    right
    rcases h with rfl | rfl <;> exact fun more _ => ⟨_, rfl, rfl⟩
  split
  · next h => subst h; exact Or.inr fun more _ => ⟨_, rfl, rfl⟩
  split
  · next h => subst h; exact Or.inr fun more _ => ⟨_, rfl, rfl⟩
  split
  · next h => subst h; exact Or.inr fun more _ => ⟨_, rfl, rfl⟩
  split
  · next h => subst h; exact Or.inr fun more _ => ⟨_, rfl, rfl⟩
  split
  · next h => subst h; exact Or.inr fun more _ => ⟨_, rfl, rfl⟩
  split
  · exact Or.inr fun more hmore => escape?_codeEscape c hmore
  · next hquoted _ _ _ _ _ hcode =>
    rw [not_or] at hquoted hcode
    exact Or.inl ⟨rfl, hquoted.1, hquoted.2, hcode.1⟩

/-! ## Whole texts -/

lemma exists_of_map_eq_ok {ε α β : Type} {f : α → β} {x : Except ε α} {b : β}
    (h : x.map f = .ok b) : ∃ a, x = .ok a ∧ b = f a := by
  cases x with
  | error e => cases h
  | ok a => exact ⟨a, rfl, (Except.ok.inj h).symm⟩

lemma readText_skip (taken skip : Nat) (cs more : List Char) :
    readText taken (cs.length + skip) (cs ++ more) = readText (taken + cs.length) skip more := by
  induction cs generalizing taken with
  | nil => rw [List.length_nil, Nat.zero_add, Nat.add_zero, List.nil_append]
  | cons c rest ih =>
    rw [List.length_cons, List.cons_append, Nat.succ_add, readText, ih, Nat.add_assoc,
      Nat.add_comm 1]

/-- What a character of a text begins: the end of the text, an escape, or what it stands for. -/
inductive TextStep (taken : Nat) (rest : List Char) : Char → List Char × Nat → Prop where
  | quote : TextStep taken rest '"' ([], taken)
  | escape {d : Char} {n : Nat} {r : List Char × Nat} (hescape : escape? rest = .ok (d, n))
      (hread : readText (taken + 1) n rest = .ok r) : TextStep taken rest '\\' (d :: r.1, r.2)
  | plain {c : Char} {r : List Char × Nat} (hquote : c ≠ '"') (hslash : c ≠ '\\')
      (hcontrol : ¬c.toNat < 0x20) (hread : readText (taken + 1) 0 rest = .ok r) :
      TextStep taken rest c (c :: r.1, r.2)

lemma readText_cons_iff {taken : Nat} {c : Char} {rest : List Char} {r : List Char × Nat} :
    readText taken 0 (c :: rest) = .ok r ↔ TextStep taken rest c r := by
  constructor
  · intro h
    rw [readText] at h
    split at h
    · next hquote =>
      obtain rfl := Except.ok.inj h
      exact hquote ▸ .quote
    · next hquote =>
      split at h
      · next hslash =>
        split at h
        · cases h
        · cases h
        · next hescape =>
          obtain ⟨r', hread, rfl⟩ := exists_of_map_eq_ok h
          exact hslash ▸ .escape hescape hread
      · next hslash =>
        split at h
        · cases h
        · next hcontrol =>
          obtain ⟨r', hread, rfl⟩ := exists_of_map_eq_ok h
          exact .plain hquote hslash hcontrol hread
  · intro h
    cases h with
    | quote => rfl
    | escape hescape hread =>
      rw [readText, if_neg (by decide), if_pos rfl, hescape]
      dsimp only
      rw [hread]
      rfl
    | plain hquote hslash hcontrol hread =>
      rw [readText, if_neg hquote, if_neg hslash, if_neg hcontrol, hread]
      rfl

/-- The characters of a text between its quotes. -/
lemma readText_escaped (ascii : Bool) (taken : Nat) (s rest : List Char) :
    readText taken 0 (s.flatMap (escapeChar ascii) ++ '"' :: rest) =
      .ok (s, taken + (s.flatMap (escapeChar ascii)).length) := by
  induction s generalizing taken with
  | nil => exact readText_cons_iff.mpr .quote
  | cons c s ih =>
    rw [List.flatMap_cons, List.append_assoc]
    rcases escapeChar_cases ascii c with ⟨hplain, hquote, hslash, hcontrol⟩ | hescaped
    · rw [hplain, List.singleton_append,
        readText_cons_iff.mpr (.plain hquote hslash hcontrol (ih (taken + 1)))]
      simp only [List.length_append, List.length_singleton, Nat.add_assoc]
    · obtain ⟨code, hcode, hescape⟩ :=
        hescaped (s.flatMap (escapeChar ascii) ++ '"' :: rest) (by simp)
      have hread := ih (taken + 1 + code.length)
      rw [← readText_skip, Nat.add_zero] at hread
      rw [hcode, List.cons_append, readText_cons_iff.mpr (.escape hescape hread)]
      simp only [List.length_append, List.length_cons]
      congr 2
      omega

/-! ## Reading on -/

/-- What is read from a point to the end of a text, if it is read at all. The first `skip`
characters belong to what was read before. -/
def run (p : Point) (skip : Nat) (cs : List Char) : Option Value :=
  (readFrom 0 p skip cs).toOption

/-- Only an error tells where a text stands. -/
lemma toOption_readFrom (offset : Nat) (p : Point) (skip : Nat) (cs : List Char) :
    (readFrom offset p skip cs).toOption = run p skip cs := by
  have hall (offset offset' : Nat) :
      (readFrom offset p skip cs).toOption = (readFrom offset' p skip cs).toOption := by
    induction cs generalizing offset offset' p skip with
    | nil =>
      unfold readFrom
      cases p <;> rfl
    | cons c rest ih =>
      cases skip with
      | succ skip => exact ih p skip (offset + 1) (offset' + 1)
      | zero =>
        rw [readFrom, readFrom]
        split
        · exact ih p 0 (offset + 1) (offset' + 1)
        · cases p.step c rest with
          | error e => rfl
          | ok taken => exact ih taken.1 taken.2 (offset + 1) (offset' + 1)
  exact hall offset 0

lemma run_blank {c : Char} (h : isBlank c = true) (p : Point) (rest : List Char) :
    run p 0 (c :: rest) = run p 0 rest := by
  rw [run, readFrom, if_pos h]
  exact toOption_readFrom _ p 0 rest

lemma run_step {p next : Point} {c : Char} {rest : List Char} {n : Nat} (hc : isBlank c = false)
    (h : p.step c rest = .ok (next, n)) : run p 0 (c :: rest) = run next n rest := by
  rw [run, readFrom, hc, if_neg Bool.false_ne_true, h]
  exact toOption_readFrom _ next n rest

lemma run_skip (p : Point) (cs more : List Char) :
    run p cs.length (cs ++ more) = run p 0 more := by
  induction cs with
  | nil => rfl
  | cons c rest ih =>
    rw [List.length_cons, List.cons_append, run, readFrom, toOption_readFrom, ih]

/-- An item that is taken whole. -/
lemma run_item {p next : Point} {c : Char} {rest more : List Char} (hc : isBlank c = false)
    (h : p.step c (rest ++ more) = .ok (next, rest.length)) :
    run p 0 (c :: rest ++ more) = run next 0 more :=
  (run_step hc h).trans (run_skip next rest more)

lemma run_mark {p next : Point} {c : Char} {more : List Char} (hc : isBlank c = false)
    (h : p.step c more = Point.proceed next) : run p 0 (c :: more) = run next 0 more :=
  run_step hc h

/-- A written text where one may stand. -/
lemma run_writeText {p : Point} {next : String → Point}
    (h : ∀ rest, p.step '"' rest = Point.takeText rest next) (ascii : Bool) (s : String)
    (more : List Char) :
    run p 0 (writeText ascii s ++ more) = run (next s) 0 more := by
  have htext := readText_escaped ascii 1 s.toList more
  have hstep : p.step '"' ((s.toList.flatMap (escapeChar ascii) ++ ['"']) ++ more) =
      .ok (next s, (s.toList.flatMap (escapeChar ascii) ++ ['"']).length) := by
    rw [h, Point.takeText, List.append_assoc, List.singleton_append, htext]
    dsimp only
    rw [String.ofList_toList, List.length_append, List.length_singleton, Nat.add_comm]
  exact run_item (by decide) hstep

/-- A text without a byte order mark is read if it is read from the start. -/
lemma read_eq_ok_of_run {cs : List Char} {v : Value} (hmark : cs.head? ≠ some '\ufeff')
    (h : run (.value .top) 0 cs = some v) : read cs = .ok v := by
  rw [read, if_neg hmark]
  unfold run at h
  cases hread : readFrom 0 (.value .top) 0 cs with
  | error e =>
    rw [hread] at h
    cases h
  | ok w =>
    rw [hread] at h
    rw [Option.some.inj h]

end DotBinding.Json

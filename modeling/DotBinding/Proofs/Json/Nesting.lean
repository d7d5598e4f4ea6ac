import DotBinding.Proofs.Json.Reading
import DotBinding.Proofs.Json.Texts

/-!
# JSON inside of JSON

The text of a map means the same wherever a value may stand, whatever is open around it and whatever
stands behind it. So an object that is written member by member is read as the record of its
members.
-/

namespace DotBinding.Json

/-! ## What stands behind a text -/

lemma readText_drop {taken n : Nat} {cs : List Char} (h : n ≤ cs.length) (skip : Nat) :
    readText taken (n + skip) cs = readText (taken + n) skip (cs.drop n) := by
  have hskip := readText_skip taken skip (cs.take n) (cs.drop n)
  rwa [List.take_append_drop, List.length_take_of_le h] at hskip

lemma unit?_append {cs : List Char} {unit : Nat} (h : unit? cs = some unit) (more : List Char) :
    4 < cs.length ∧ unit? (cs ++ more) = some unit := by
  unfold unit? at h ⊢
  split at h
  · cases h
  · next hmore =>
    have hlength : 4 < cs.length := by simpa using hmore
    refine ⟨hlength, ?_⟩
    rw [List.drop_append_of_le_length hlength.le, List.take_append_of_le_length hlength.le,
      if_neg (by simp; omega), h]

/-- An escape that needs more text to be read is no end of one. -/
lemma exists_escape?_of_readText {taken : Nat} {cs : List Char} {s : List Char × Nat}
    (h : readText taken 0 ('\\' :: cs) = .ok s) : ∃ r, escape? cs = .ok r := by
  cases readText_cons_iff.mp h with
  | escape hescape _ => exact ⟨_, hescape⟩
  | plain _ hslash _ _ => exact absurd rfl hslash

lemma unitEscape?_append {unit : Nat} {cs : List Char} {r : Char × Nat}
    (h : unitEscape? unit cs = some r) {taken : Nat} {s : List Char × Nat}
    (hread : readText taken r.2 cs = .ok s) (more : List Char) :
    r.2 ≤ cs.length ∧ unitEscape? unit (cs ++ more) = some r := by
  cases hhalf : isHighHalf unit with
  | false =>
    rw [unitEscape?_of_not_isHighHalf hhalf] at h ⊢
    cases h
    exact ⟨Nat.zero_le _, rfl⟩
  | true =>
    by_cases hpair : ∃ rest, cs = '\\' :: 'u' :: rest
    · obtain ⟨rest, rfl⟩ := hpair
      obtain ⟨low, hlow⟩ : ∃ low, unit? rest = some low := by
        cases hunit : unit? rest with
        | some low => exact ⟨low, rfl⟩
        | none =>
          -- then the first half stands alone, and what stands behind it is no escape
          have hr : r.2 = 0 := by
            rw [unitEscape?, hunit, Option.map_none] at h
            split at h
            · cases h
            · cases h
              rfl
          rw [hr] at hread
          obtain ⟨r', hescape⟩ := exists_escape?_of_readText hread
          rw [escape?, hunit] at hescape
          cases hescape
      obtain ⟨hlength, hlow'⟩ := unit?_append hlow more
      rw [List.cons_append, List.cons_append]
      rw [unitEscape?, hhalf, hlow, if_pos (by simpa using hlength)] at h
      rw [unitEscape?, hhalf, hlow', if_pos (by simp; omega)]
      refine ⟨?_, h⟩
      have hr : r.2 ≤ 6 := by
        obtain rfl := Option.some.inj h
        dsimp only
        split <;> simp
      rw [List.length_cons, List.length_cons]
      omega
    · rw [unitEscape?_of_not_pair (not_exists.mp hpair)] at h
      cases h
      refine ⟨Nat.zero_le _, unitEscape?_of_not_pair ?_ unit⟩
      intro m heq
      rcases cs with _ | ⟨c, _ | ⟨d, rest⟩⟩
      · cases hread
      · obtain ⟨rfl, -⟩ := List.cons.inj heq
        obtain ⟨_, hescape⟩ := exists_escape?_of_readText hread
        cases hescape
      · obtain ⟨rfl, hrest⟩ := List.cons.inj heq
        obtain ⟨rfl, -⟩ := List.cons.inj hrest
        exact hpair ⟨rest, rfl⟩

lemma escape?_append {cs : List Char} {r : Char × Nat} (h : escape? cs = .ok r) {taken : Nat}
    {s : List Char × Nat} (hread : readText taken r.2 cs = .ok s) (more : List Char) :
    r.2 ≤ cs.length ∧ escape? (cs ++ more) = .ok r := by
  cases cs with
  | nil => cases h
  | cons c rest =>
    rw [List.cons_append, List.length_cons]
    rcases escape?_cons_iff.mp h with ⟨rfl, unit, d, n, hunit, hescape, rfl⟩ | ⟨hc, d, hshort, rfl⟩
    · obtain ⟨hlength, hunit'⟩ := unit?_append hunit more
      have hread' : readText (taken + 5) n (rest.drop 4) = .ok s := by
        rw [← hread, readText_drop (by rw [List.length_cons]; omega)]
        rfl
      obtain ⟨hle, hescape'⟩ := unitEscape?_append hescape hread' more
      rw [List.length_drop] at hle
      rw [← List.drop_append_of_le_length hlength.le] at hescape'
      refine ⟨by dsimp only; omega, escape?_cons_iff.mpr ?_⟩
      exact Or.inl ⟨rfl, unit, d, n, hunit', hescape', rfl⟩
    · exact ⟨Nat.le_add_left 1 _, escape?_cons_iff.mpr (Or.inr ⟨hc, d, hshort, rfl⟩)⟩

/-- A text that is read ends with its quote, so nothing behind it makes a difference. -/
lemma readText_append {taken skip : Nat} {cs : List Char} {r : List Char × Nat}
    (h : readText taken skip cs = .ok r) (more : List Char) :
    r.2 + 1 ≤ taken + cs.length ∧ readText taken skip (cs ++ more) = .ok r := by
  induction cs generalizing taken skip r with
  | nil => cases skip <;> cases h
  | cons c rest ih =>
    rw [List.cons_append, List.length_cons]
    cases skip with
    | succ skip =>
      obtain ⟨hlength, hread⟩ := ih h
      exact ⟨by omega, hread⟩
    | zero =>
      rw [readText_cons_iff] at h ⊢
      cases h with
      | quote => exact ⟨by dsimp only; omega, .quote⟩
      | escape hescape hread =>
        obtain ⟨hlength, hread'⟩ := ih hread
        exact ⟨by dsimp only; omega, .escape (escape?_append hescape hread more).2 hread'⟩
      | plain hquote hslash hcontrol hread =>
        obtain ⟨hlength, hread'⟩ := ih hread
        exact ⟨by dsimp only; omega, .plain hquote hslash hcontrol hread'⟩

/-! ## What stands behind an item -/

namespace Point

lemma step_behind {c : Char} (h : isScalarPart c = true) (v : Value) (nest : Nest)
    (rest : List Char) : (behind v nest).step c rest = refuse (behind v nest) := by
  have hne (d : Char) (hd : isScalarPart d = false) : c ≠ d := by
    rintro rfl
    rw [h] at hd
    cases hd
  cases nest with
  | top => rfl
  | list items outer =>
    rw [behind, step, if_neg (hne ',' rfl), if_neg (hne ']' rfl)]
  | map entries key outer =>
    rw [behind, step, if_neg (hne ',' rfl), if_neg (hne '}' rfl)]

end Point

/-- Behind a value there is nothing to read in what a scalar is written with. -/
lemma eq_of_readFrom_behind {offset skip : Nat} {cs : List Char} {v w : Value} {nest : Nest}
    (hcs : ∀ c ∈ cs, isScalarPart c = true)
    (h : readFrom offset (Point.behind v nest) skip cs = .ok w) : w = v := by
  induction cs generalizing offset skip with
  | nil =>
    cases nest with
    | top =>
      rw [Point.behind, readFrom] at h
      exact (Except.ok.inj h).symm
    | list items outer | map entries key outer =>
      rw [Point.behind, readFrom] at h
      · cases h
      · simp
  | cons c rest ih =>
    obtain ⟨hc, hrest⟩ := List.forall_mem_cons.mp hcs
    cases skip with
    | succ skip => exact ih hrest h
    | zero =>
      rcases readFrom_cons_iff.mp h with ⟨-, hread⟩ | ⟨-, next, n, hstep, -⟩
      · exact ih hrest hread
      · rw [Point.step_behind hc] at hstep
        cases hstep

namespace Point

/-- Where the whole is read as a map, a step is the same with more text behind it. -/
lemma step_append {p next : Point} {c : Char} {rest : List Char} {n offset : Nat}
    {entries : List (Value × Value)} (h : p.step c rest = .ok (next, n))
    (hread : readFrom offset next n rest = .ok (.map entries)) (more : List Char) :
    n ≤ rest.length ∧ p.step c (rest ++ more) = .ok (next, n) := by
  cases p.takes c with
  | mark next' hstep _ =>
    rw [hstep] at h ⊢
    cases h
    exact ⟨Nat.zero_le _, rfl⟩
  | text next' hstep _ =>
    rw [hstep, takeText] at h
    rw [hstep, takeText]
    split at h
    · next cs m htext =>
      obtain ⟨hlength, htext'⟩ := readText_append htext more
      cases h
      rw [htext']
      refine ⟨?_, rfl⟩
      dsimp only at hlength
      omega
    · cases h
  | scalar nest hstep _ =>
    rw [hstep] at h ⊢
    refine ⟨le_length_of_takeScalar h, ?_⟩
    -- a scalar is no map, so something stands behind it that is no part of one
    have hother : ¬∀ d ∈ rest, isScalarPart d = true := by
      intro hall
      rcases takeScalar_cases nest c rest with ⟨v, n', heq, -, hv⟩ | ⟨_, _, heq⟩ | ⟨_, heq, -⟩
      · cases heq.symm.trans h
        rw [← eq_of_readFrom_behind hall hread] at hv
        cases hv
      · cases heq.symm.trans h
      · cases heq.symm.trans h
    have hpart : scalarPart (rest ++ more) = scalarPart rest := by
      rw [scalarPart, List.takeWhile_append, if_neg, scalarPart]
      intro hlength
      apply hother
      rw [← (List.takeWhile_prefix isScalarPart).eq_of_length hlength]
      exact List.all_eq_true.mp List.all_takeWhile
    rw [← takeScalar_scalarPart, hpart, takeScalar_scalarPart, h]
  | nothing hstep =>
    rw [hstep] at h
    cases h

end Point

/-! ## What is open around a text -/

/-- The lists and maps that are open, with more of them open around. -/
def Nest.within (nest outer : Nest) : Nest :=
  match nest with
  | top => outer
  | list items inner => list items (inner.within outer)
  | map entries key inner => map entries key (inner.within outer)

namespace Point

/-- The same point with more lists and maps open around. -/
def within (p : Point) (outer : Nest) : Point :=
  match p with
  | value inner => value (inner.within outer)
  | listStart inner => listStart (inner.within outer)
  | listEnd items inner => listEnd items (inner.within outer)
  | mapStart inner => mapStart (inner.within outer)
  | mapKey entries inner => mapKey entries (inner.within outer)
  | colon entries key inner => colon entries key (inner.within outer)
  | mapEnd entries inner => mapEnd entries (inner.within outer)
  | finished v => behind v outer

lemma within_behind (outer : Nest) (v : Value) (inner : Nest) :
    (behind v inner).within outer = behind v (inner.within outer) := by
  cases inner <;> rfl

lemma takeText_within (outer : Nest) (rest : List Char) {next next' : String → Point}
    (h : ∀ s, next' s = (next s).within outer) :
    takeText rest next' = (takeText rest next).map fun r => (r.1.within outer, r.2) := by
  rw [takeText, takeText]
  cases readText 1 0 rest with
  | ok r => exact congrArg (fun p => Except.ok (p, r.2)) (h _)
  | error e => rfl

lemma takeScalar_within (outer inner : Nest) (c : Char) (rest : List Char) :
    takeScalar (inner.within outer) c rest =
      (takeScalar inner c rest).map fun r => (r.1.within outer, r.2) := by
  rw [takeScalar, takeScalar]
  split
  · simp only [Except.map, within_behind]
  · dsimp only
    split
    · rfl
    · next n _ => cases n.value (c == '-') <;> simp [Except.map, within_behind]

lemma takeValue_within (outer inner : Nest) (c : Char) (rest : List Char) :
    takeValue (inner.within outer) c rest =
      (takeValue inner c rest).map fun r => (r.1.within outer, r.2) := by
  rw [takeValue, takeValue]
  split
  · exact takeText_within outer rest fun s => (within_behind outer _ inner).symm
  split
  · rfl
  split
  · rfl
  · exact takeScalar_within outer inner c rest

/-- What is open around a point changes nothing about a step. -/
lemma step_within (outer : Nest) {p : Point} (hp : ∀ v, p ≠ finished v) (c : Char)
    (rest : List Char) :
    (p.within outer).step c rest = (p.step c rest).map fun r => (r.1.within outer, r.2) := by
  cases p with
  | value inner => exact takeValue_within outer inner c rest
  | listStart inner =>
    rw [within, step, step]
    split
    · exact congrArg (fun p => Except.ok (p, 0)) (within_behind outer _ inner).symm
    · exact takeValue_within outer (.list [] inner) c rest
  | listEnd items inner =>
    rw [within, step, step]
    split
    · rfl
    split
    · exact congrArg (fun p => Except.ok (p, 0)) (within_behind outer _ inner).symm
    · rfl
  | mapStart inner =>
    rw [within, step, step]
    split
    · exact congrArg (fun p => Except.ok (p, 0)) (within_behind outer _ inner).symm
    split
    · exact takeText_within outer rest fun s => rfl
    · rfl
  | mapKey entries inner =>
    rw [within, step, step]
    split
    · exact takeText_within outer rest fun s => rfl
    · rfl
  | colon entries key inner =>
    rw [within, step, step]
    split <;> rfl
  | mapEnd entries inner =>
    rw [within, step, step]
    split
    · rfl
    split
    · exact congrArg (fun p => Except.ok (p, 0)) (within_behind outer _ inner).symm
    · rfl
  | finished v => exact absurd rfl (hp v)

end Point

lemma readFrom_within {offset skip : Nat} {p : Point} {cs : List Char}
    {entries : List (Value × Value)} (hskip : skip ≤ cs.length)
    (h : readFrom offset p skip cs = .ok (.map entries)) (outer : Nest) (offset' : Nat)
    (more : List Char) :
    readFrom offset' (p.within outer) skip (cs ++ more) =
      readFrom (offset' + cs.length) (Point.behind (.map entries) outer) 0 more := by
  induction cs generalizing offset offset' p skip with
  | nil =>
    obtain rfl := Nat.le_zero.mp hskip
    cases p with
    | finished v =>
      obtain rfl := Except.ok.inj h
      rfl
    | _ => cases h
  | cons c rest ih =>
    have hnext {q : Point} {n : Nat} (hn : n ≤ rest.length)
        (hq : readFrom (offset + 1) q n rest = .ok (.map entries)) :
        readFrom (offset' + 1) (q.within outer) n (rest ++ more) =
          readFrom (offset' + (c :: rest).length) (Point.behind (.map entries) outer) 0 more := by
      rw [ih hn hq, List.length_cons, Nat.add_assoc, Nat.add_comm 1]
    rw [List.cons_append]
    cases skip with
    | succ skip => exact hnext (Nat.le_of_succ_le_succ hskip) h
    | zero =>
      rw [readFrom]
      rcases readFrom_cons_iff.mp h with ⟨hblank, hread⟩ | ⟨hblank, next, n, hstep, hread⟩
      · rw [if_pos hblank]
        exact hnext (Nat.zero_le _) hread
      · have hp : ∀ v, p ≠ .finished v := by
          rintro v rfl
          cases hstep
        obtain ⟨hlength, hstep'⟩ := Point.step_append hstep hread more
        rw [hblank, if_neg Bool.false_ne_true, Point.step_within outer hp, hstep']
        exact hnext hlength hread

/-- Whether a text is read as a value wherever a value may stand, whatever stands behind it. -/
def Writes (cs : List Char) (v : Value) : Prop :=
  ∀ outer more, run (.value outer) 0 (cs ++ more) = run (Point.behind v outer) 0 more

/-- The text of a map means the same inside of other texts. -/
theorem writes_of_read {cs : List Char} {entries : List (Value × Value)}
    (h : read cs = .ok (.map entries)) : Writes cs (.map entries) := by
  unfold read at h
  split at h
  · cases h
  · intro outer more
    have hwithin := readFrom_within (Nat.zero_le _) h outer 0 more
    rw [run, ← toOption_readFrom (0 + cs.length), ← hwithin]
    rfl

/-! ## Objects -/

lemma writes_writeText (ascii : Bool) (s : String) : Writes (writeText ascii s) (.text s) := by
  intro outer more
  have hstep : ∀ rest, (Point.value outer).step '"' rest =
      Point.takeText rest fun s => Point.behind (.text s) outer := fun _ => rfl
  exact run_writeText hstep ascii s more

/-- A member of an object: its key, and a value with its text. -/
structure Member where
  key : String
  text : List Char
  value : Value
  writes : Writes text value

namespace Member

def written (m : Member) : List Char :=
  writeText false m.key ++ ':' :: m.text

/-- The end of an object behind a member: more of them, and the closing brace. -/
def closing : List Member → List Char
  | [] => ['}']
  | m :: rest => ',' :: (m.written ++ closing rest)

def object : List Member → List Char
  | [] => ['{', '}']
  | m :: rest => '{' :: (m.written ++ closing rest)

def record (ms : List Member) (r : Record) : Record :=
  ms.foldl (fun r m => r.set m.key m.value) r

lemma run_written {p : Point} {entries : Record} {outer : Nest}
    (hstep : ∀ rest, p.step '"' rest = Point.takeText rest fun s => .colon entries s outer)
    (m : Member) (more : List Char) :
    run p 0 (m.written ++ more) = run (.mapEnd (entries.set m.key m.value) outer) 0 more := by
  have hcolon (rest : List Char) : (Point.colon entries m.key outer).step ':' rest =
      Point.proceed (.value (.map entries m.key outer)) := rfl
  rw [written, List.append_assoc, run_writeText hstep, List.cons_append,
    run_mark (by decide) (hcolon _), m.writes, Point.behind]

lemma run_closing (ms : List Member) (entries : Record) (outer : Nest) (more : List Char) :
    run (.mapEnd entries outer) 0 (closing ms ++ more) =
      run (Point.behind (record ms entries).toValue outer) 0 more := by
  induction ms generalizing entries with
  | nil =>
    have hend : (Point.mapEnd entries outer).step '}' more =
        Point.proceed (Point.behind entries.toValue outer) := rfl
    exact run_mark (by decide) hend
  | cons m rest ih =>
    have hcomma (cs : List Char) : (Point.mapEnd entries outer).step ',' cs =
        Point.proceed (.mapKey entries outer) := rfl
    rw [closing, List.cons_append, run_mark (by decide) (hcomma _), List.append_assoc,
      run_written (fun _ => rfl), ih]
    rfl

/-- An object that is written member by member is read as the record of its members. -/
theorem read_object (ms : List Member) : read (object ms) = .ok (record ms .empty).toValue := by
  have hopen (cs : List Char) : (Point.value .top).step '{' cs = Point.proceed (.mapStart .top) :=
    rfl
  cases ms with
  | nil => rfl
  | cons m rest =>
    have hend := run_closing rest (Record.empty.set m.key m.value) .top []
    rw [List.append_nil] at hend
    apply read_eq_ok_of_run
    · rw [object, List.head?_cons]
      decide
    · rw [object, run_mark (by decide) (hopen _), run_written (fun _ => rfl), hend]
      rfl

end Member

end DotBinding.Json

import DotBinding.Proofs.Dot.Descent
import DotBinding.Proofs.Dot.FirstFault

/-!
# What recursive descent comes to

A descent and the reading item by item are run side by side. Wherever a part of the descent comes
to, the reading stands at a point that goes with it: in front of the same entry, with the same
statements and graphs read. A fault of a part is the fault of the reading. Since every round of a
loop and every opening of a block leaves fewer items to read, their number bounds both.

An invariant of this kind is a predicate of what was found and of the place (`Ends`); the rules for
it go by the parts a descent is made of, and there is one lemma for each rule of the grammar.
-/

namespace DotBinding.Dot

/-! ## Reading from a place -/

/-- Reading stands at a point and a place, with some graphs complete. The outcome is then these and
what is read from there. -/
structure Stands (ts : Tokens) (outcome : Except ParseError (List Graph)) (complete : List Graph)
    (p : Point) (i : Nat) : Prop where
  le : i ≤ ts.items.length
  outcome_eq : outcome = (readFrom ts.stop p (ts.items.drop i)).map (complete ++ ·)

namespace Tokens

variable {ts : Tokens} {i : Nat} {l : Lexeme}

lemma item?_eq_some_iff :
    ts.item? i = some l ↔ ∃ t, ts.items[i]? = some t ∧ t.lexeme = l := by
  simp [item?]

lemma items_of_item? (h : ts.item? i = some l) :
    i < ts.items.length ∧
      ts.items.drop i = ⟨l, ts.position i⟩ :: ts.items.drop (i + 1) := by
  obtain ⟨t, ht, rfl⟩ := item?_eq_some_iff.1 h
  obtain ⟨hi, rfl⟩ := List.getElem?_eq_some_iff.1 ht
  refine ⟨hi, ?_⟩
  rw [position, ht, List.drop_eq_getElem_cons hi]
  rfl

lemma eq_length_of_item? (hi : i ≤ ts.items.length) (h : ts.item? i = none) :
    i = ts.items.length := by
  have hle : ts.items.length ≤ i := by simpa [item?] using h
  omega

lemma entry_of_le (hi : i ≤ ts.items.length) : ts.entry i = .ok (ts.item? i, ts.position i) :=
  if_pos hi

end Tokens

namespace Stands

variable {ts : Tokens} {outcome : Except ParseError (List Graph)} {complete : List Graph}
  {p q : Point} {i : Nat} {l : Lexeme} {g : Option Graph} {f : Fault}

/-- An item is taken. -/
lemma taken (h : Stands ts outcome complete p i) (hl : ts.item? i = some l)
    (hstep : p.step l = .ok (q, g)) : Stands ts outcome (complete ++ g.toList) q (i + 1) := by
  obtain ⟨hi, hdrop⟩ := Tokens.items_of_item? hl
  refine ⟨hi, ?_⟩
  rw [h.outcome_eq, hdrop, Point.readFrom_cons hstep]
  cases readFrom ts.stop q (ts.items.drop (i + 1)) <;> simp [Except.map]

/-- An entry is at fault. -/
lemma refused (h : Stands ts outcome complete p i)
    (hstep : ∀ l, ts.item? i = some l → p.step l = .error f)
    (hmissing : ts.item? i = none → p.missing? = some f) :
    outcome = .error ⟨f, ts.position i⟩ := by
  rw [h.outcome_eq]
  cases hl : ts.item? i with
  | some l =>
    rw [(Tokens.items_of_item? hl).2, readFrom, hstep l hl]
    rfl
  | none =>
    have hi := Tokens.eq_length_of_item? h.le hl
    rw [hi, List.drop_length, readFrom, hmissing hl]
    simp [Tokens.position, Except.map]

/-- Points that do the same in front of an entry may be taken for each other. -/
lemma congr (h : Stands ts outcome complete p i)
    (hstep : ∀ l, ts.item? i = some l → p.step l = q.step l)
    (hmissing : ts.item? i = none → p.missing? = q.missing?) : Stands ts outcome complete q i := by
  refine ⟨h.le, ?_⟩
  rw [h.outcome_eq]
  cases hl : ts.item? i with
  | some l => rw [(Tokens.items_of_item? hl).2, readFrom, readFrom, hstep l hl]
  | none =>
    rw [Tokens.eq_length_of_item? h.le hl, List.drop_length, readFrom, readFrom, hmissing hl]

end Stands

/-! ## Kinds of entries -/

namespace Descent

variable {l : Lexeme} {m : Mark}

/-- What the end is not is an item. -/
lemma ne_none_of_test {test : Option Lexeme → Bool} {found : Option Lexeme}
    (h : test found = true) (hnone : test none = false) : found ≠ none := by
  rintro rfl
  rw [hnone] at h
  cases h

@[simp] lemma isMark_some : isMark m (some l) = decide (l = .mark m) := by
  simp [isMark]

@[simp] lemma isKeyword_some {k : Keyword} :
    isKeyword k (some l) = decide (l.keyword? = some k) := by
  simp [isKeyword]

lemma isName_some : isName (some l) = true ↔ ∃ n, l.keyword? = none ∧ l.id? = some n := by
  simp [isName, Option.isSome_iff_exists, Lexeme.name?_eq_some_iff]

lemma isEdgeOp_some : isEdgeOp (some l) = true ↔ ∃ op, l = .edgeOp op := by
  cases l <;> simp [isEdgeOp]

@[simp] lemma goesOn_some : goesOn m (some l) = !decide (l = .mark m) := by
  simp [goesOn]

@[simp] lemma opensSubgraph_some : opensSubgraph (some l) =
    decide (l.keyword? = some .subgraph ∨ l = .mark .openBrace) := by
  simp [opensSubgraph]

end Descent

/-! ## Parts of a descent -/

/-- A part of a descent ends well: in the fault that is the outcome, or with something of which a
condition holds where it comes to. -/
inductive Ends {α : Type} (ts : Tokens) (outcome : Except ParseError (List Graph)) (i : Nat)
    (part : Descent α) (cond : α → Nat → Prop) : Prop
  | yields {a : α} {j : Nat} (hrun : part ts i = .ok (a, j)) (hcond : cond a j)
  | faults {e : ParseError} (hrun : part ts i = .error (.fault e)) (houtcome : outcome = .error e)

namespace Ends

variable {α β : Type} {ts : Tokens} {outcome : Except ParseError (List Graph)} {i : Nat}

section Rules

variable {part : Descent α} {cond cond' : α → Nat → Prop} {complete : List Graph} {p q : Point}
  {test : Option Lexeme → Bool}

lemma mono (h : Ends ts outcome i part cond) (himp : ∀ a j, cond a j → cond' a j) :
    Ends ts outcome i part cond' := by
  cases h with
  | yields hrun hcond => exact yields hrun (himp _ _ hcond)
  | faults hrun houtcome => exact faults hrun houtcome

lemma pure {a : α} (h : cond a i) : Ends ts outcome i (return a) cond :=
  yields rfl h

lemma bind {next : α → Descent β} {cond' : β → Nat → Prop} (h : Ends ts outcome i part cond)
    (hnext : ∀ a j, cond a j → Ends ts outcome j (next a) cond') :
    Ends ts outcome i (part >>= next) cond' := by
  have hbind : (part >>= next) ts i = part ts i >>= fun x => next x.1 ts x.2 := rfl
  cases h with
  | faults hrun houtcome =>
    refine faults ?_ houtcome
    rw [hbind, hrun]
    rfl
  | yields hrun hcond =>
    rw [hrun] at hbind
    cases hnext _ _ hcond with
    | yields hrun' hcond' => exact yields (hbind.trans hrun') hcond'
    | faults hrun' houtcome => exact faults (hbind.trans hrun') houtcome

lemma choose {part' : Descent α} (hi : i ≤ ts.items.length)
    (hyes : test (ts.item? i) = true → Ends ts outcome i part cond)
    (hno : test (ts.item? i) = false → Ends ts outcome i part' cond) :
    Ends ts outcome i (do if ← Descent.sees test then part else part') cond := by
  have hsees : Ends ts outcome i (Descent.sees test) fun b j => b = test (ts.item? i) ∧ i = j := by
    refine yields (a := test (ts.item? i)) (j := i) ?_ ⟨rfl, rfl⟩
    change ((ts.entry i).map fun found => (found, i)) >>= _ = _
    rw [Tokens.entry_of_le hi]
    rfl
  refine hsees.bind ?_
  rintro b j ⟨rfl, rfl⟩
  cases hb : test (ts.item? i) with
  | true => exact hyes hb
  | false => exact hno hb

/-- An entry is taken, and reading stands behind it at a point of what was made of it. -/
lemma accept {make : Option Lexeme → Except Fault α} {q : α → Point} {g : Option Graph}
    (h : Stands ts outcome complete p i)
    (hstep : ∀ l, ts.item? i = some l → p.step l = (make (some l)).map fun a => (q a, g))
    (hend : ts.item? i = none → ∃ f, make none = .error f ∧ p.missing? = some f) :
    Ends ts outcome i (Descent.accept make) fun a j =>
      i < j ∧ Stands ts outcome (complete ++ g.toList) (q a) j := by
  have hrun : Descent.accept make ts i =
      ((make (ts.item? i)).mapError fun f => Halt.fault ⟨f, ts.position i⟩).map
        fun a => (a, i + 1) := by
    change ((ts.entry i).map fun found => (found, i + 1)) >>= _ = _
    rw [Tokens.entry_of_le h.le]
    cases hmake : make (ts.item? i) <;> simp [Except.map, Except.bind, Bind.bind, hmake] <;> rfl
  cases hmake : make (ts.item? i) with
  | ok a =>
    refine yields (hrun.trans (by rw [hmake]; rfl)) ⟨Nat.lt_succ_self i, ?_⟩
    cases hl : ts.item? i with
    | some l => exact h.taken hl (by rw [hstep l hl, ← hl, hmake]; rfl)
    | none =>
      obtain ⟨f, hf, -⟩ := hend hl
      rw [hl, hf] at hmake
      cases hmake
  | error f =>
    refine faults (hrun.trans (by rw [hmake]; rfl)) (h.refused ?_ ?_)
    · intro l hl
      rw [hstep l hl, ← hl, hmake]
      rfl
    · intro hl
      obtain ⟨f', hf', hmissing⟩ := hend hl
      rw [hl, hf'] at hmake
      cases hmake
      exact hmissing

lemma proceed {make : Option Lexeme → Except Fault α} {q : α → Point}
    (h : Stands ts outcome complete p i)
    (hstep : ∀ l, ts.item? i = some l → p.step l = (make (some l)).map fun a => (q a, none))
    (hend : ts.item? i = none → ∃ f, make none = .error f ∧ p.missing? = some f) :
    Ends ts outcome i (Descent.accept make) fun a j =>
      i < j ∧ Stands ts outcome complete (q a) j := by
  simpa using accept h hstep hend

lemma skip (h : Stands ts outcome complete p i) (hitem : ts.item? i ≠ none)
    (hstep : ∀ l, ts.item? i = some l → p.step l = Point.proceed q) :
    Ends ts outcome i Descent.skip fun _ j => i < j ∧ Stands ts outcome complete q j := by
  unfold Descent.skip
  exact proceed h hstep fun hl => absurd hl hitem

lemma skipIf (h : Stands ts outcome complete p i) (hnone : test none = false)
    (hyes : ∀ l, test (some l) = true → p.step l = Point.proceed q)
    (hno : ∀ l, test (some l) = false → p.step l = q.step l) (hmissing : p.missing? = q.missing?) :
    Ends ts outcome i (Descent.skipIf test) fun _ j => i ≤ j ∧ Stands ts outcome complete q j := by
  refine choose h.le (fun htest => ?_) fun htest =>
    pure ⟨Nat.le_refl i, h.congr ?_ fun _ => hmissing⟩
  · have hitem := Descent.ne_none_of_test htest hnone
    exact (skip h hitem fun l hl => hyes l (by rw [← hl, htest])).mono fun _ j hj =>
      ⟨Nat.le_of_lt hj.1, hj.2⟩
  · exact fun l hl => hno l (by rw [← hl, htest])

lemma expect {m : Mark} (h : Stands ts outcome complete p i)
    (hstep : ∀ l, ts.item? i = some l → p.step l =
      if l = .mark m then Point.proceed q else Point.refuse (.expectedMark m (some l)))
    (hmissing : ts.item? i = none → p.missing? = some (.expectedMark m none)) :
    Ends ts outcome i (Descent.expect m) fun _ j => i < j ∧ Stands ts outcome complete q j := by
  refine proceed (q := fun _ => q) h (fun l hl => ?_) fun hl => ⟨_, rfl, hmissing hl⟩
  rw [hstep l hl]
  by_cases hm : l = .mark m <;> simp [hm, Point.proceed, Point.refuse, Except.map]

lemma identifier {q : String → Point} (h : Stands ts outcome complete p i)
    (hstep : ∀ l, ts.item? i = some l → p.step l =
      match l.id? with
      | some n => Point.proceed (q n)
      | none => Point.refuse (.expectedId (some l)))
    (hmissing : ts.item? i = none → p.missing? = some (.expectedId none)) :
    Ends ts outcome i Descent.identifier fun n j =>
      i < j ∧ Stands ts outcome complete (q n) j := by
  refine proceed h (fun l hl => ?_) fun hl => ⟨_, rfl, hmissing hl⟩
  rw [hstep l hl]
  cases hid : l.id? <;> simp [hid, Point.proceed, Point.refuse, Except.map]

lemma here {next : Nat → Descent α} (h : Ends ts outcome i (next i) cond) :
    Ends ts outcome i (get >>= next) cond := by
  cases h with
  | yields hrun hcond => exact yields hrun hcond
  | faults hrun houtcome => exact faults hrun houtcome

/-- Taking a token is progress. -/
lemma advancing (h : Ends ts outcome i part fun a j => i < j ∧ cond a j) :
    Ends ts outcome i (Descent.advancing part) fun a j => i < j ∧ cond a j := by
  refine here (h.bind fun a j hj => here ?_)
  rw [if_neg (by omega)]
  exact pure hj

lemma beyond {start : Nat} (hi : start < i) (h : Ends ts outcome i part cond) :
    Ends ts outcome i (Descent.beyond start part) cond := by
  refine here ?_
  rw [if_neg (by omega)]
  exact h

/-- What every round keeps holds in the end, and the entry at hand is none of those that ask for a
further round. -/
lemma rounds (inv : List α → Nat → Prop) {fuel : Nat} (before : List α)
    (hle : ∀ found j, inv found j → j ≤ ts.items.length)
    (hround : ∀ found j, inv found j → test (ts.item? j) = true →
      Ends ts outcome j part fun a k => j < k ∧ inv (found ++ [a]) k)
    (hfuel : ts.items.length < i + fuel) (h : inv before i) :
    Ends ts outcome i (Descent.rounds test part fuel) fun found j =>
      i ≤ j ∧ inv (before ++ found) j ∧ test (ts.item? j) = false := by
  induction fuel generalizing i before with
  | zero => exact absurd (hle _ _ h) (by omega)
  | succ fuel ih =>
    refine choose (hle _ _ h) (fun htest => ?_) fun htest =>
      pure ⟨Nat.le_refl i, by simpa using h, htest⟩
    refine (hround before i h htest).advancing.bind fun a j hj => ?_
    refine (ih (before ++ [a]) (by have := hj.1; omega) hj.2).bind fun rest k hk =>
      pure ⟨?_, ?_, hk.2.2⟩
    · have := hj.1
      have := hk.1
      omega
    · simpa using hk.2.1

lemma refuseHere {f : Fault} (h : Stands ts outcome complete p i)
    (hstep : ∀ l, ts.item? i = some l → p.step l = .error f)
    (hmissing : ts.item? i = none → p.missing? = some f) :
    Ends ts outcome i (Descent.refuseHere f) cond := by
  refine faults ?_ (h.refused hstep hmissing)
  change ((ts.entry i).map fun found => (found, i)) >>= _ = _
  rw [Tokens.entry_of_le h.le]
  rfl

lemma unexpected {l : Lexeme} (h : Stands ts outcome complete p i) (hl : ts.item? i = some l)
    (hstep : p.step l = .error (.unexpectedItem l)) :
    Ends ts outcome i Descent.unexpected cond := by
  refine faults ?_ (h.refused (f := .unexpectedItem l) (fun l' hl' => ?_) fun hnone => ?_)
  · change ((ts.entry i).map fun found => (found, i)) >>= _ = _
    rw [Tokens.entry_of_le h.le, hl]
    rfl
  · obtain rfl : l = l' := Option.some.inj (hl.symm.trans hl')
    exact hstep
  · rw [hl] at hnone
    cases hnone

end Rules

end Ends

/-! ## The rules of the grammar -/

namespace Ends

open Descent (goesOn isMark isKeyword isName isEdgeOp opensSubgraph)

variable {ts : Tokens} {outcome : Except ParseError (List Graph)} {complete : List Graph}
  {blocks : Blocks} {head : Head} {attributes : List Attribute} {i fuel : Nat}

lemma pair (h : Stands ts outcome complete (.attributeKey blocks head attributes) i)
    (hgo : goesOn .closeBracket (ts.item? i) = true) :
    Ends ts outcome i Descent.pair fun a j =>
      i < j ∧ Stands ts outcome complete (.attributeKey blocks head (attributes ++ [a])) j := by
  refine (identifier (q := .attributeEquals blocks head attributes) h ?_ ?_).bind
    fun key j hkey => ?_
  · intro l hl
    exact if_neg (by simpa [hl] using hgo)
  · exact fun hl => absurd hl (Descent.ne_none_of_test hgo rfl)
  refine (expect (q := .attributeValue blocks head attributes key) hkey.2 (fun _ _ => rfl)
    fun _ => rfl).bind fun _ k hequals => ?_
  refine (identifier (q := fun value => .attributeEnd blocks head (attributes ++ [⟨key, value⟩]))
    hequals.2 (fun _ _ => rfl) fun _ => rfl).bind fun value m hvalue => ?_
  refine (skipIf (q := .attributeKey blocks head (attributes ++ [⟨key, value⟩])) hvalue.2 rfl
    ?_ ?_ rfl).bind fun _ n hskip => pure ⟨by omega, hskip.2⟩
  · intro l hl
    exact if_pos (by simpa using hl)
  · intro l hl
    exact if_neg (by simpa using hl)

lemma attributeList (hfuel : ts.items.length < fuel)
    (h : Stands ts outcome complete (.lists blocks head attributes) i)
    (hopen : isMark .openBracket (ts.item? i) = true) :
    Ends ts outcome i (Descent.attributeList fuel) fun found j =>
      i < j ∧ Stands ts outcome complete (.lists blocks head (attributes ++ found)) j := by
  refine (expect (q := .attributeKey blocks head attributes) h ?_ ?_).bind fun _ j hbracket => ?_
  · intro l hl
    obtain rfl : l = .mark .openBracket := by simpa [hl] using hopen
    rfl
  · exact fun hl => absurd hl (Descent.ne_none_of_test hopen rfl)
  refine (rounds (fun found j =>
    Stands ts outcome complete (.attributeKey blocks head (attributes ++ found)) j) []
    (fun _ _ hfound => hfound.le) (fun found k hfound hgo => ?_) (by omega)
    (by simpa using hbracket.2)).bind fun found k hrounds => ?_
  · simpa using pair hfound hgo
  refine (expect (q := .lists blocks head (attributes ++ found)) hrounds.2.1 ?_
    fun _ => rfl).bind fun _ m hclose => pure ⟨by omega, hclose.2⟩
  intro l hl
  obtain rfl : l = .mark .closeBracket := by simpa [hl] using hrounds.2.2
  rfl

/-- Behind the last attribute list the statement is complete. -/
lemma attributeLists (hfuel : ts.items.length < fuel)
    (h : Stands ts outcome complete (.lists blocks head []) i) :
    Ends ts outcome i (Descent.attributeLists fuel) fun found j =>
      i ≤ j ∧ Stands ts outcome complete (.separator (blocks.add (head.statement found))) j := by
  refine (rounds (fun lists j => Stands ts outcome complete (.lists blocks head lists.flatten) j) []
    (fun _ _ hlists => hlists.le) (fun lists k hlists hopen => ?_) (by omega) h).bind
    fun lists j hrounds => pure ⟨hrounds.1, hrounds.2.1.congr ?_ fun _ => rfl⟩
  · simpa using attributeList hfuel hlists hopen
  · intro l hl
    exact if_neg (by simpa [hl] using hrounds.2.2)

lemma attributeStatement {target : Target} (hfuel : ts.items.length < fuel)
    (h : Stands ts outcome complete (.statement blocks) i) (hitem : ts.item? i ≠ none)
    (hstep : ∀ l, ts.item? i = some l →
      Point.statementStep blocks l = .ok (.lists blocks (.attributes target) [], none)) :
    Ends ts outcome i (Descent.attributeStatement fuel target) fun s j =>
      i < j ∧ Stands ts outcome complete (.separator (blocks.add s)) j := by
  refine (skip h hitem hstep).bind fun _ j hskip => ?_
  exact (attributeLists hfuel hskip.2).bind fun found k hlists => pure ⟨by omega, hlists.2⟩

lemma assignment {name : String} (h : Stands ts outcome complete (.leadingName blocks name) i)
    (hequals : isMark .equals (ts.item? i) = true) :
    Ends ts outcome i (Descent.assignment name) fun s j =>
      i < j ∧ Stands ts outcome complete (.separator (blocks.add s)) j := by
  have hitem : ts.item? i = some (.mark .equals) := by simpa [isMark] using hequals
  refine (skip (q := .assignment blocks name) h (by simp [hitem]) ?_).bind fun _ j hskip => ?_
  · intro l hl
    obtain rfl : .mark .equals = l := Option.some.inj (hitem.symm.trans hl)
    rfl
  refine (identifier (q := fun value =>
    .separator (blocks.add (.attributes .graph [⟨name, value⟩]))) hskip.2 (fun _ _ => rfl)
    fun _ => rfl).bind fun value k hvalue => pure ⟨by omega, hvalue.2⟩

lemma link {names : List String} (h : Stands ts outcome complete (.chainName blocks names) i)
    (hop : isEdgeOp (ts.item? i) = true) :
    Ends ts outcome i Descent.link fun n j =>
      i < j ∧ Stands ts outcome complete (.chainName blocks (names ++ [n])) j := by
  have hitem := Descent.ne_none_of_test hop rfl
  refine (skip (q := .endpoint blocks names) h hitem ?_).bind fun _ j hskip => ?_
  · intro l hl
    rw [hl, Descent.isEdgeOp_some] at hop
    obtain ⟨op, rfl⟩ := hop
    rfl
  refine choose hskip.2.le (fun hopens => ?_) fun hopens => ?_
  · refine refuseHere hskip.2 (fun l hl => ?_) fun hl => ?_
    · exact if_pos (by simpa [hl] using hopens)
    · exact absurd hl (Descent.ne_none_of_test hopens rfl)
  · refine (identifier hskip.2 (fun l hl => ?_) fun _ => rfl).mono fun _ k hname =>
      ⟨by omega, hname.2⟩
    exact if_neg (by simpa [hl] using hopens)

lemma edge {name : String} (hfuel : ts.items.length < fuel)
    (h : Stands ts outcome complete (.chainName blocks [name]) i) :
    Ends ts outcome i (Descent.edge fuel name) fun s j =>
      i ≤ j ∧ Stands ts outcome complete (.separator (blocks.add s)) j := by
  refine (rounds
    (fun names j => Stands ts outcome complete (.chainName blocks (name :: names)) j) []
    (fun _ _ hnames => hnames.le) (fun names k hnames hop => link hnames hop) (by omega) h).bind
    fun names j hrounds => ?_
  have hlists : Stands ts outcome complete (.lists blocks (.edge (name :: names)) []) j := by
    refine hrounds.2.1.congr (fun l hl => ?_) fun _ => rfl
    have hop := hrounds.2.2
    cases l with
    | edgeOp op => rw [hl] at hop; cases hop
    | mark m => rfl
    | word s => rfl
    | numeral s => rfl
    | quoted s => rfl
  exact (attributeLists hfuel hlists).bind fun found k hfound => pure ⟨by omega, hfound.2⟩

lemma node {name : String} (hfuel : ts.items.length < fuel)
    (h : Stands ts outcome complete (.lists blocks (.node name) []) i) :
    Ends ts outcome i (Descent.node fuel name) fun s j =>
      i ≤ j ∧ Stands ts outcome complete (.separator (blocks.add s)) j :=
  (attributeLists hfuel h).bind fun _ _ hfound => pure hfound

/-- What stands behind a leading name decides which statement it is. -/
lemma named (hfuel : ts.items.length < fuel)
    (h : Stands ts outcome complete (.statement blocks) i)
    (hname : isName (ts.item? i) = true) :
    Ends ts outcome i (Descent.named fuel) fun s j =>
      i < j ∧ Stands ts outcome complete (.separator (blocks.add s)) j := by
  refine (identifier (q := .leadingName blocks) h (fun l hl => ?_) fun hl => ?_).bind
    fun name j hfirst => ?_
  · rw [hl, Descent.isName_some] at hname
    obtain ⟨n, hkeyword, hid⟩ := hname
    change Point.statementStep blocks l = _
    cases l with
    | mark m => cases hid
    | edgeOp op => cases hid
    | word s => simp only [Point.statementStep, hkeyword, hid]
    | numeral s => simp only [Point.statementStep, hkeyword, hid]
    | quoted s => simp only [Point.statementStep, hkeyword, hid]
  · exact absurd hl (Descent.ne_none_of_test hname rfl)
  refine choose hfirst.2.le (fun hequals => ?_) fun hequals => choose hfirst.2.le (fun hop => ?_)
    fun hop => ?_
  · exact (assignment hfirst.2 hequals).mono fun _ k hk => ⟨by omega, hk.2⟩
  · refine (edge hfuel (hfirst.2.congr (fun l hl => ?_) fun _ => rfl)).mono fun _ k hk =>
      ⟨by omega, hk.2⟩
    rw [hl, Descent.isEdgeOp_some] at hop
    obtain ⟨op, rfl⟩ := hop
    rfl
  · refine (node hfuel (hfirst.2.congr (fun l hl => ?_) fun _ => rfl)).mono fun _ k hk =>
      ⟨by omega, hk.2⟩
    cases l with
    | edgeOp op => rw [hl] at hop; cases hop
    | mark m => cases m <;> first | rfl | (rw [hl] at hequals; cases hequals)
    | word s => rfl
    | numeral s => rfl
    | quoted s => rfl

lemma optionalName {p : Point} {q : String → Point} (h : Stands ts outcome complete p i)
    (hstep : ∀ l, p.step l =
      match l.name? with
      | some n => Point.proceed (q n)
      | none => (q "").step l)
    (hmissing : p.missing? = (q "").missing?) :
    Ends ts outcome i Descent.optionalName fun n j =>
      i ≤ j ∧ Stands ts outcome complete (q n) j := by
  refine choose h.le (fun hname => ?_) fun hname =>
    pure ⟨Nat.le_refl i, h.congr ?_ fun _ => hmissing⟩
  · refine (identifier (q := q) h (fun l hl => ?_) fun hl => ?_).mono fun _ j hj =>
      ⟨Nat.le_of_lt hj.1, hj.2⟩
    · rw [hl, Descent.isName_some] at hname
      obtain ⟨n, hkeyword, hid⟩ := hname
      rw [hstep, Lexeme.name?_eq_some_iff.2 ⟨hkeyword, hid⟩, hid]
    · exact absurd hl (Descent.ne_none_of_test hname rfl)
  · intro l hl
    have hnone : l.name? = none := by simpa [hl, isName] using hname
    rw [hstep, hnone]

/-- A block opened without a name is one whose name is empty. -/
lemma subgraphName (h : Stands ts outcome complete (.statement blocks) i)
    (hopens : opensSubgraph (ts.item? i) = true) :
    Ends ts outcome i Descent.subgraphName fun n j =>
      i ≤ j ∧ Stands ts outcome complete (.subgraphBody blocks n) j := by
  have hitem := Descent.ne_none_of_test hopens rfl
  refine choose h.le (fun hkeyword => ?_) fun hkeyword => pure ⟨Nat.le_refl i, h.congr ?_ ?_⟩
  · refine (skip (q := .subgraphName blocks) h hitem fun l hl => ?_).bind fun _ j hskip => ?_
    · have hsubgraph : l.keyword? = some .subgraph := by simpa [hl] using hkeyword
      change Point.statementStep blocks l = _
      simp only [Point.statementStep, hsubgraph]
    · exact (optionalName (q := .subgraphBody blocks) hskip.2 (fun _ => rfl) rfl).mono
        fun _ k hk => ⟨by omega, hk.2⟩
  · intro l hl
    have hnot : l.keyword? ≠ some .subgraph := by simpa [hl] using hkeyword
    have hbrace : l = .mark .openBrace := by simpa [hl, hnot] using hopens
    rw [hbrace]
    rfl
  · exact fun hl => absurd hl hitem

end Ends

/-- Adds statements to the innermost block, one after the other. -/
def Blocks.addAll (blocks : Blocks) (statements : List Statement) : Blocks :=
  statements.foldl (fun opened s => opened.add s) blocks

namespace Blocks

variable {blocks : Blocks} {s : Statement}

lemma addAll_append_singleton (statements : List Statement) :
    blocks.addAll (statements ++ [s]) = (blocks.addAll statements).add s := by
  simp [addAll]

lemma addAll_subgraph {name : String} {outer : Blocks} (before statements : List Statement) :
    (subgraph name before outer).addAll statements =
      subgraph name (statements.reverse ++ before) outer := by
  induction statements generalizing before with
  | nil => rfl
  | cons s rest ih => simpa [addAll, add] using ih (s :: before)

lemma addAll_graph {header : Header} (before statements : List Statement) :
    (graph header before).addAll statements = graph header (statements.reverse ++ before) := by
  induction statements generalizing before with
  | nil => rfl
  | cons s rest ih => simpa [addAll, add] using ih (s :: before)

end Blocks

namespace Ends

open Descent (goesOn isMark isKeyword isName isEdgeOp opensSubgraph)

variable {ts : Tokens} {outcome : Except ParseError (List Graph)} {complete : List Graph}
  {blocks : Blocks} {i fuel : Nat} {body : Descent (List Statement)}

/-- A part that reads the statements of a block, whatever block it is, when the block starts behind
a place. -/
def ReadsBlocks (ts : Tokens) (outcome : Except ParseError (List Graph)) (complete : List Graph)
    (start : Nat) (body : Descent (List Statement)) : Prop :=
  ∀ {blocks i}, start < i → Stands ts outcome complete (.statement blocks) i →
    Ends ts outcome i body fun ss j =>
      i ≤ j ∧ Stands ts outcome complete (.statement (blocks.addAll ss)) j ∧
        goesOn .closeBrace (ts.item? j) = false

lemma subgraph (hbody : ReadsBlocks ts outcome complete i body)
    (h : Stands ts outcome complete (.statement blocks) i)
    (hopens : opensSubgraph (ts.item? i) = true) :
    Ends ts outcome i (Descent.subgraph body) fun s j =>
      i < j ∧ Stands ts outcome complete (.separator (blocks.add s)) j := by
  refine here ((subgraphName h hopens).bind fun name j hname => ?_)
  refine (expect (q := .statement (.subgraph name [] blocks)) hname.2 (fun _ _ => rfl)
    fun _ => rfl).bind fun _ k hbrace => ?_
  refine (beyond (by omega) (hbody (by omega) hbrace.2)).bind fun ss m hblock => ?_
  have hend := hblock.2.1
  rw [Blocks.addAll_subgraph, List.append_nil] at hend
  refine (expect (q := .subgraphEnd (blocks.add (.subgraph name ss))) hend (fun l hl => ?_)
    fun _ => rfl).bind fun _ n hclose => choose hclose.2.le (fun hop => ?_)
    fun hop => pure ⟨by omega, hclose.2.congr (fun l hl => ?_) fun _ => rfl⟩
  · obtain rfl : l = .mark .closeBrace := by simpa [hl] using hblock.2.2
    change Point.proceed (.subgraphEnd (blocks.add (.subgraph name ss.reverse.reverse))) = _
    rw [List.reverse_reverse]
    rfl
  · refine refuseHere hclose.2 (fun l hl => ?_) fun hl => ?_
    · rw [hl, Descent.isEdgeOp_some] at hop
      obtain ⟨op, rfl⟩ := hop
      rfl
    · exact absurd hl (Descent.ne_none_of_test hop rfl)
  · cases l with
    | edgeOp op => rw [hl] at hop; cases hop
    | mark m => rfl
    | word s => rfl
    | numeral s => rfl
    | quoted s => rfl

/-- A statement is asked for in front of an item that closes no block. -/
lemma statement (hfuel : ts.items.length < fuel) (hbody : ReadsBlocks ts outcome complete i body)
    (h : Stands ts outcome complete (.statement blocks) i)
    (hgo : goesOn .closeBrace (ts.item? i) = true) :
    Ends ts outcome i (Descent.statement fuel body) fun s j =>
      i < j ∧ Stands ts outcome complete (.separator (blocks.add s)) j := by
  have hitem := Descent.ne_none_of_test hgo rfl
  obtain ⟨l, hl⟩ := Option.ne_none_iff_exists'.1 hitem
  have hkeyword {k : Keyword} {b : Bool} (hk : isKeyword k (ts.item? i) = b) :
      decide (l.keyword? = some k) = b := by rwa [hl, Descent.isKeyword_some] at hk
  have hattributes {k : Keyword} {target : Target} (hk : isKeyword k (ts.item? i) = true)
      (hstep : l.keyword? = some k →
        Point.statementStep blocks l = .ok (.lists blocks (.attributes target) [], none)) :=
    attributeStatement hfuel h hitem fun l' hl' => by
      obtain rfl : l = l' := Option.some.inj (hl.symm.trans hl')
      exact hstep (of_decide_eq_true (hkeyword hk))
  refine choose h.le (fun hk => hattributes hk ?_) fun hgraph =>
    choose h.le (fun hk => hattributes hk ?_) fun hnode =>
    choose h.le (fun hk => hattributes hk ?_) fun hedge =>
    choose h.le (subgraph hbody h) fun hopens => choose h.le (named hfuel h) fun hname => ?_
  · intro hk
    simp only [Point.statementStep, hk, Point.proceed]
  · intro hk
    simp only [Point.statementStep, hk, Point.proceed]
  · intro hk
    simp only [Point.statementStep, hk, Point.proceed]
  · refine unexpected h hl ?_
    change Point.statementStep blocks l = _
    have hsubgraph : ¬(l.keyword? = some .subgraph ∨ l = .mark .openBrace) := by
      simpa [hl] using hopens
    have hclose : l ≠ .mark .closeBrace := by simpa [hl] using hgo
    have hnameless : l.name? = none := by simpa [hl, isName] using hname
    have hgraph := hkeyword hgraph
    have hnode := hkeyword hnode
    have hedge := hkeyword hedge
    cases hk : l.keyword? with
    | some k => cases k <;> simp_all [Point.statementStep, Point.refuse]
    | none =>
      have hid : l.id? = none := by simpa [Lexeme.name?, hk] using hnameless
      cases l with
      | mark m => cases m <;> simp_all [Point.statementStep, Point.refuse]
      | edgeOp op => rfl
      | word s => simp only [Point.statementStep, hk, hid, Point.refuse]
      | numeral s => cases hid
      | quoted s => cases hid

lemma separated (hfuel : ts.items.length < fuel) (hbody : ReadsBlocks ts outcome complete i body)
    (h : Stands ts outcome complete (.statement blocks) i)
    (hgo : goesOn .closeBrace (ts.item? i) = true) :
    Ends ts outcome i (Descent.separated fuel body) fun s j =>
      i < j ∧ Stands ts outcome complete (.statement (blocks.add s)) j := by
  refine (statement hfuel hbody h hgo).bind fun s j hs => ?_
  refine (skipIf (q := .statement (blocks.add s)) hs.2 rfl (fun l hl => ?_) (fun l hl => ?_)
    rfl).bind fun _ k hk => pure ⟨by omega, hk.2⟩
  · exact if_pos (by simpa using hl)
  · exact if_neg (by simpa using hl)

/-- A block inside a block starts at a later place, so blocks do not stand deeper inside each other
than there are items left. -/
lemma block {start depth : Nat} (hfuel : ts.items.length < fuel)
    (hdepth : ts.items.length < start + 1 + depth) :
    ReadsBlocks ts outcome complete start (Descent.block fuel depth) := by
  intro blocks i hi h
  induction depth generalizing start blocks i with
  | zero => exact absurd h.le (by omega)
  | succ depth ih =>
    refine rounds (fun ss j =>
      i ≤ j ∧ Stands ts outcome complete (.statement (blocks.addAll ss)) j) []
      (fun _ _ hss => hss.2.le) (fun ss j hss hgo => ?_) (by omega) ⟨Nat.le_refl i, h⟩ |>.mono
      fun ss j hj => ⟨hj.1, hj.2.1.2, hj.2.2⟩
    have hbody : ReadsBlocks ts outcome complete j (Descent.block fuel depth) := fun hlt h' =>
      ih (by omega) hlt h'
    refine (separated hfuel hbody hss.2 hgo).mono fun s k hk => ⟨hk.1, by omega, ?_⟩
    rw [Blocks.addAll_append_singleton]
    exact hk.2

/-- Behind `strict`, or in front of a graph that is not, reading stands before the kind of a
graph. -/
lemma strictness (h : Stands ts outcome complete .graph i) (hitem : ts.item? i ≠ none) :
    Ends ts outcome i Descent.strictness fun strict j => i ≤ j ∧
      ∃ p, Stands ts outcome complete p j ∧
        (∀ l, ts.item? j = some l → p.step l = Point.kindStep strict l) ∧
        (ts.item? j = none → p.missing? = some (.expectedGraph none)) := by
  refine choose h.le (fun hstrict => ?_) fun hstrict => pure ⟨Nat.le_refl i, .graph, h, ?_, ?_⟩
  · refine (skip (q := .graphKind) h hitem fun l hl => ?_).bind fun _ j hskip =>
      pure ⟨Nat.le_of_lt hskip.1, .graphKind, hskip.2, fun _ _ => rfl, fun _ => rfl⟩
    exact if_pos (by simpa [hl] using hstrict)
  · intro l hl
    exact if_neg (by simpa [hl] using hstrict)
  · exact fun hl => absurd hl hitem

lemma graphKind {p : Point} {strict : Bool} (h : Stands ts outcome complete p i)
    (hstep : ∀ l, ts.item? i = some l → p.step l = Point.kindStep strict l)
    (hmissing : ts.item? i = none → p.missing? = some (.expectedGraph none)) :
    Ends ts outcome i Descent.graphKind fun kind j =>
      i < j ∧ Stands ts outcome complete (.graphName strict kind) j := by
  refine proceed h (fun l hl => ?_) fun hl => ⟨_, rfl, hmissing hl⟩
  rw [hstep l hl, Point.kindStep, Option.bind_some]
  cases l.keyword? with
  | none => rfl
  | some k => cases k <;> rfl

lemma graph (hfuel : ts.items.length < fuel) (h : Stands ts outcome complete .graph i)
    (hitem : ts.item? i ≠ none) :
    Ends ts outcome i (Descent.graph fuel) fun g j =>
      i < j ∧ Stands ts outcome (complete ++ [g]) .graph j := by
  refine (strictness h hitem).bind fun strict j hstrict => ?_
  obtain ⟨hij, p, hp, hstep, hmissing⟩ := hstrict
  refine (graphKind hp hstep hmissing).bind fun kind k hkind => ?_
  refine (optionalName (q := fun n => .graphBody ⟨strict, kind, n⟩) hkind.2 (fun _ => rfl)
    rfl).bind fun name m hname => ?_
  refine (expect (q := .statement (.graph ⟨strict, kind, name⟩ [])) hname.2 (fun _ _ => rfl)
    fun _ => rfl).bind fun _ n hbrace => ?_
  have hbody : ReadsBlocks ts outcome complete 0 (Descent.block fuel fuel) :=
    block hfuel (by omega)
  refine (hbody (by omega) hbrace.2).bind fun ss r hblock => ?_
  have hend := hblock.2.1
  rw [Blocks.addAll_graph, List.append_nil] at hend
  refine (accept (q := fun _ => .graph) (g := some ⟨kind, name, strict, ss⟩) hend
    (fun l hl => ?_) fun _ => ⟨_, rfl, rfl⟩).bind fun _ x hclose => pure ⟨by omega, hclose.2⟩
  obtain rfl : l = .mark .closeBrace := by simpa [hl] using hblock.2.2
  change Except.ok (Point.graph, some (Graph.mk kind name strict ss.reverse.reverse)) = _
  rw [List.reverse_reverse]
  rfl

end Ends

/-- The descent comes to the end of the tokens, or to the fault that reading item by item finds. It
never asks for an entry behind the end, goes round a loop or into a block without taking a token,
or runs out of a number of rounds and of open blocks that is greater than the number of items. -/
theorem Descent.graphs_eq_readFrom (ts : Tokens) {fuel : Nat} (h : ts.items.length < fuel) :
    Descent.graphs fuel ts 0 =
      match readFrom ts.stop .graph ts.items with
      | .ok graphs => .ok (graphs, ts.items.length)
      | .error e => .error (.fault e) := by
  generalize houtcome : readFrom ts.stop .graph ts.items = outcome
  have hstands : Stands ts outcome [] .graph 0 := by
    refine ⟨Nat.zero_le _, ?_⟩
    rw [List.drop_zero, houtcome]
    cases outcome <;> rfl
  have hends : Ends ts outcome 0 (Descent.graphs fuel) fun graphs j =>
      0 ≤ j ∧ Stands ts outcome graphs .graph j ∧ (ts.item? j).isSome = false :=
    Ends.rounds (fun graphs j => Stands ts outcome graphs .graph j) []
      (fun _ _ hgraphs => hgraphs.le)
      (fun _ _ hgraphs hsome => Ends.graph h hgraphs (Option.isSome_iff_ne_none.1 hsome))
      (by omega) hstands
  cases hends with
  | faults hrun houtcome =>
    rw [houtcome]
    exact hrun
  | yields hrun hcond =>
    obtain ⟨-, hend, hnone⟩ := hcond
    have hj := Tokens.eq_length_of_item? hend.le (by simpa using hnone)
    have hdone := hend.outcome_eq
    rw [hj, List.drop_length] at hdone
    rw [hrun, hdone, hj]
    simp [readFrom, Point.missing?, Except.map]

/-- The end inside an attribute list, inside a block inside a block. -/
def truncatedTokens : Tokens :=
  ⟨[⟨.word "graph", ⟨1, 1⟩⟩, ⟨.mark .openBrace, ⟨1, 7⟩⟩, ⟨.mark .openBrace, ⟨1, 9⟩⟩,
    ⟨.word "a", ⟨1, 11⟩⟩, ⟨.mark .openBracket, ⟨1, 13⟩⟩, ⟨.word "k", ⟨1, 14⟩⟩,
    ⟨.mark .equals, ⟨1, 15⟩⟩], ⟨1, 16⟩⟩

/-- The end is taken as the value that is missing, and nothing is asked for behind it. -/
theorem graphs_of_truncatedTokens :
    truncatedTokens.items.length < 8 ∧
      Descent.graphs 8 truncatedTokens 0 = .error (.fault ⟨.expectedId none, ⟨1, 16⟩⟩) := by
  have hlength : truncatedTokens.items.length < 8 := by decide
  have hread : readFrom truncatedTokens.stop .graph truncatedTokens.items =
      .error ⟨.expectedId none, ⟨1, 16⟩⟩ := rfl
  refine ⟨hlength, ?_⟩
  rw [Descent.graphs_eq_readFrom truncatedTokens hlength, hread]

end DotBinding.Dot

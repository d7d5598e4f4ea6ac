import DotBinding.Proofs.Dot.Appending
import DotBinding.Proofs.Dot.Reading

/-!
# Splitting piece by piece

A text scans exactly when it splits up to its end, and whatever is passed over is the beginning of
what is found up to the end. What is found in front of a place that is not the end stays when more
is appended. A blank between two texts keeps their items apart, unless the first one ends in a
comment that the blank does not end.
-/

namespace DotBinding.Dot

open Scanner

lemma splits_of_scanFrom {p : Position} {cs : List Char} {ts : Tokens}
    (h : scanFrom p 0 cs = .ok ts) : Splits cs (ts.items.map Token.lexeme) [] := by
  induction hlength : cs.length using Nat.strongRecOn generalizing p cs ts with
  | ind length ih =>
    cases cs with
    | nil =>
      obtain rfl := Except.ok.inj h
      exact .done []
    | cons c rest =>
      have hshorter (n : Nat) : (rest.drop n).length < length := by
        rw [← hlength, List.length_drop, List.length_cons]
        omega
      rw [scanFrom] at h
      cases hgap : gap? c rest with
      | some n =>
        simp only [hgap] at h
        rw [scanFrom_skip] at h
        exact .gap hgap (ih _ (hshorter n) h rfl)
      | none =>
        simp only [hgap] at h
        cases hitem : item? c rest with
        | none => simp [hitem] at h
        | some found =>
          obtain ⟨l, n⟩ := found
          simp only [hitem] at h
          rw [scanFrom_skip] at h
          cases hrest : scanFrom ((p.next c).after (rest.take n)) 0 (rest.drop n) with
          | error e => simp [hrest, Except.map] at h
          | ok more =>
            rw [hrest] at h
            obtain rfl := Except.ok.inj h
            exact .item hgap hitem (ih _ (hshorter n) hrest rfl)

namespace Splits

variable {c : Char} {s u rest tail : List Char} {items more all : List Lexeme}

lemma of_nil (h : Splits [] items tail) : items = [] ∧ tail = [] := by
  cases h
  exact ⟨rfl, rfl⟩

/-- Whatever is passed over is the beginning of what is found up to the end. -/
lemma exists_append (h : Splits s items tail) (hall : Splits s all []) :
    ∃ more, all = items ++ more ∧ Splits tail more [] := by
  induction h generalizing all with
  | done cs => exact ⟨all, rfl, hall⟩
  | gap hgap _ ih =>
    cases hall with
    | gap hgap' hall =>
      obtain rfl := Option.some.inj (hgap.symm.trans hgap')
      exact ih hall
    | item hgap' _ _ => simp [hgap] at hgap'
  | item hgap hitem _ ih =>
    cases hall with
    | gap hgap' _ => simp [hgap] at hgap'
    | item _ hitem' hall =>
      obtain ⟨rfl, rfl⟩ := Prod.mk.inj (Option.some.inj (hitem.symm.trans hitem'))
      obtain ⟨more, rfl, hmore⟩ := ih hall
      exact ⟨more, rfl, hmore⟩

lemma unique (h : Splits s items []) (hall : Splits s all []) : all = items := by
  obtain ⟨more, rfl, hmore⟩ := h.exists_append hall
  rw [hmore.of_nil.1, List.append_nil]

/-- The last of the items stands where splitting comes to behind all others. -/
lemma exists_last {l : Lexeme} (h : Splits s all tail) (hall : all = items ++ [l]) :
    ∃ c rest n, Splits s items (c :: rest) ∧ item? c rest = some (l, n) ∧
      Splits (rest.drop n) [] tail := by
  induction h generalizing items with
  | done cs => simp at hall
  | gap hgap _ ih =>
    obtain ⟨d, behind, n, hfront, hlast⟩ := ih hall
    exact ⟨d, behind, n, .gap hgap hfront, hlast⟩
  | @item c rest tail found l' n hgap hitem h ih =>
    cases items with
    | nil =>
      obtain ⟨rfl, rfl⟩ := List.cons.inj hall
      exact ⟨c, rest, n, .done _, hitem, h⟩
    | cons first more =>
      obtain ⟨rfl, hmore⟩ := List.cons.inj hall
      obtain ⟨d, behind, k, hfront, hlast⟩ := ih hmore
      exact ⟨d, behind, k, .item hgap hitem hfront, hlast⟩

/-- A text splits up to its end, or up to a place where nothing fits. -/
lemma exists_end_or_stuck (s : List Char) :
    (∃ items, Splits s items []) ∨
      ∃ items c rest, Splits s items (c :: rest) ∧ gap? c rest = none ∧ item? c rest = none := by
  induction hlength : s.length using Nat.strongRecOn generalizing s with
  | ind length ih =>
    cases s with
    | nil => exact Or.inl ⟨[], .done []⟩
    | cons c rest =>
      have hrest (n : Nat) := ih (rest.drop n).length
        (by rw [← hlength, List.length_drop, List.length_cons]; omega) _ rfl
      cases hgap : gap? c rest with
      | some n =>
        rcases hrest n with ⟨items, h⟩ | ⟨items, d, behind, h, hstuck⟩
        · exact Or.inl ⟨items, .gap hgap h⟩
        · exact Or.inr ⟨items, d, behind, .gap hgap h, hstuck⟩
      | none =>
        cases hitem : item? c rest with
        | none => exact Or.inr ⟨[], c, rest, .done _, hgap, hitem⟩
        | some found =>
          rcases hrest found.2 with ⟨items, h⟩ | ⟨items, d, behind, h, hstuck⟩
          · exact Or.inl ⟨_, .item hgap hitem h⟩
          · exact Or.inr ⟨_, d, behind, .item hgap hitem h, hstuck⟩

end Splits

lemma scans_iff_splits {s : List Char} {items : List Lexeme} :
    Scans s items ↔ Splits s items [] := by
  constructor
  · intro h
    obtain ⟨ts, hscan, rfl⟩ := h .start
    exact splits_of_scanFrom hscan
  · intro h
    have hscans := h.scans_append Scans.nil
    rwa [List.append_nil] at hscans

/-- A text is read by splitting it and reading the items, whatever their places are. -/
lemma parse_eq_ok_iff {source : String} {graphs : List Graph} :
    parse source = .ok graphs ↔
      ∃ items, Scans source.toList items ∧ read? .graph items = some graphs := by
  constructor
  · intro h
    unfold parse at h
    cases hscan : scan source with
    | error e => simp [hscan, Except.bind] at h
    | ok ts =>
      rw [hscan] at h
      exact ⟨_, scans_iff_splits.mpr (splits_of_scanFrom hscan),
        (readFrom_eq_ok_iff _ _ _ _).mp h⟩
  · rintro ⟨items, hscans, hread⟩
    obtain ⟨ts, hscan, rfl⟩ := hscans .start
    rw [parse, scan, hscan]
    exact (readFrom_eq_ok_iff _ _ _ _).mpr hread

namespace Splits

variable {c stop : Char} {s t u w rest tail : List Char} {items more all : List Lexeme}

lemma blank_cons_iff (hc : Text.isBlank c = true) :
    Splits (c :: rest) items [] ↔ Splits rest items [] := by
  have hdropped {d : Char} {behind : List Char} (hd : Text.isBlank d = true) :
      Splits (d :: behind) items [] ↔ Splits (behind.dropWhile Text.isBlank) items [] := by
    have hgap : gap? d behind = some (behind.takeWhile Text.isBlank).length :=
      gap?_of_isBlank hd
    have hdrop : behind.drop (behind.takeWhile Text.isBlank).length =
        behind.dropWhile Text.isBlank := by
      calc behind.drop (behind.takeWhile Text.isBlank).length
        _ = (behind.takeWhile Text.isBlank ++ behind.dropWhile Text.isBlank).drop
              (behind.takeWhile Text.isBlank).length := by rw [List.takeWhile_append_dropWhile]
        _ = behind.dropWhile Text.isBlank := List.drop_left
    constructor
    · intro h
      cases h with
      | gap hgap' h =>
        obtain rfl := Option.some.inj (hgap.symm.trans hgap')
        rwa [hdrop] at h
      | item hgap' _ _ => simp [hgap] at hgap'
    · intro h
      exact .gap hgap (by rwa [hdrop])
  rw [hdropped hc]
  cases rest with
  | nil => rfl
  | cons d behind =>
    cases hd : Text.isBlank d with
    | true => rw [List.dropWhile_cons_of_pos hd, hdropped hd]
    | false => rw [List.dropWhile_cons_of_neg (by simp [hd])]

lemma blanks_append_iff (hw : ∀ d ∈ w, Text.isBlank d = true) :
    Splits (w ++ s) items [] ↔ Splits s items [] := by
  induction w with
  | nil => rfl
  | cons c w ih =>
    rw [List.cons_append, blank_cons_iff (hw c List.mem_cons_self),
      ih fun d hd => hw d (List.mem_cons_of_mem _ hd)]

/-- What is found in front of a place that is not the end stays when more is appended. -/
lemma append (h : Splits s items tail) (htail : tail ≠ []) (u : List Char) :
    Splits (s ++ u) items (tail ++ u) := by
  have hshort {n : Nat} {behind : List Char} {found : List Lexeme}
      (h : Splits (behind.drop n) found tail) : n < behind.length := by
    by_contra hle
    rw [List.drop_eq_nil_of_le (by omega)] at h
    exact htail h.of_nil.2
  induction h with
  | done cs => exact .done _
  | gap hgap h ih =>
    have hlt := hshort h
    have hrest := ih htail hshort
    rw [← List.drop_append_of_le_length (Nat.le_of_lt hlt)] at hrest
    exact .gap (gap?_append_of_lt hgap hlt) hrest
  | item hgap hitem h ih =>
    have hlt := hshort h
    have hrest := ih htail hshort
    rw [← List.drop_append_of_le_length (Nat.le_of_lt hlt)] at hrest
    exact .item (gap?_of_item hgap hitem _) (item?_append hitem (Or.inl hlt)) hrest

end Splits

/-- Whether a text ends in a comment that goes on to the end of its line. -/
def EndsInComment (s : List Char) : Prop :=
  ∃ items c rest, Splits s items (c :: rest) ∧ isLineComment c rest ∧ '\n' ∉ rest

namespace Splits

variable {c stop : Char} {s t u rest tail : List Char} {items more all : List Lexeme}

/-- A blank between two texts keeps their items apart, unless the first text ends in a comment that
the blank does not end. -/
lemma append_blank (h : Splits s items tail) (htail : tail = []) (hblank : Text.isBlank stop = true)
    (hstop : isStop stop = true) (hcomment : stop = '\n' ∨ ¬EndsInComment s)
    (ht : Splits t more []) : Splits (s ++ stop :: t) (items ++ more) [] := by
  induction h with
  | done cs =>
    subst htail
    exact (blank_cons_iff hblank).mpr ht
  | @gap c rest tail items n hgap h ih =>
    have hrest : Splits (rest.drop n ++ stop :: t) (items ++ more) [] := by
      refine ih htail (hcomment.imp_right fun hno hends => ?_)
      obtain ⟨found, d, behind, hfound, hline⟩ := hends
      exact hno ⟨_, d, behind, .gap hgap hfound, hline⟩
    cases hc : Text.isBlank c with
    | true =>
      -- blanks at the end of the first text and the one between the texts are one gap
      rw [gap?_of_isBlank hc, Option.some.injEq] at hgap
      have htake : rest.takeWhile Text.isBlank = rest.take n := by
        rw [← hgap]
        exact List.prefix_iff_eq_take.mp (List.takeWhile_prefix _)
      have hblanks : ∀ d ∈ rest.take n, Text.isBlank d = true := by
        rw [← htake]
        exact fun d hd => List.all_eq_true.mp List.all_takeWhile d hd
      rw [List.cons_append, blank_cons_iff hc, ← List.take_append_drop n rest, List.append_assoc,
        blanks_append_iff hblanks]
      exact hrest
    | false =>
      obtain ⟨happend, hle⟩ := gap?_append (u := stop :: t) hgap hc fun hline => by
        rcases hcomment with rfl | hno
        · exact lineLength_append (Or.inr rfl)
        · refine lineLength_append (t := t) (Or.inl ?_)
          by_contra hmem
          exact hno ⟨[], c, rest, .done _, hline, hmem⟩
      rw [← List.drop_append_of_le_length hle] at hrest
      exact .gap happend hrest
  | @item c rest tail items l n hgap hitem h ih =>
    have hrest : Splits (rest.drop n ++ stop :: t) (items ++ more) [] := by
      refine ih htail (hcomment.imp_right fun hno hends => ?_)
      obtain ⟨found, d, behind, hfound, hline⟩ := hends
      exact hno ⟨_, d, behind, .item hgap hitem hfound, hline⟩
    rw [← List.drop_append_of_le_length (item?_le hitem)] at hrest
    exact .item (gap?_of_item hgap hitem _)
      (item?_append hitem (Or.inr ⟨stop, t, rfl, hstop⟩)) hrest

/-- A text that ends in a comment takes what is appended into the comment, up to a line end. -/
lemma append_of_endsInComment (h : Splits s items []) (hends : EndsInComment s) (hu : '\n' ∉ u) :
    Splits (s ++ u) items [] := by
  obtain ⟨found, c, rest, hfound, hline, hmem⟩ := hends
  have hcomment {behind : List Char} (hline : isLineComment c behind) (hmem : '\n' ∉ behind) :
      Splits (c :: behind) [] [] := by
    refine .gap (gap?_of_isLineComment hline) ?_
    rw [lineLength_of_not_mem hmem, List.drop_length]
    exact .done []
  obtain rfl : found = items := by
    have hall := hfound.trans (hcomment hline hmem)
    rw [List.append_nil] at hall
    exact h.unique hall
  have hmem' : '\n' ∉ rest ++ u := by
    rw [List.mem_append, not_or]
    exact ⟨hmem, hu⟩
  have hall := (hfound.append (List.cons_ne_nil c rest) u).trans
    (hcomment (isLineComment_append hline u) hmem')
  rwa [List.append_nil] at hall

/-- A text in front of characters that continue and close nothing splits by itself. -/
lemma of_append (hu : ∀ d ∈ u, isNeutral d = true) (h : Splits (s ++ u) all []) :
    ∃ items, Splits s items [] := by
  rcases exists_end_or_stuck s with hend | ⟨items, c, rest, hfound, hgap, hitem⟩
  · exact hend
  obtain ⟨more, -, hmore⟩ := (hfound.append (List.cons_ne_nil c rest) u).exists_append h
  cases hmore with
  | gap hgap' _ => simp [gap?_append_eq_none hgap hu] at hgap'
  | item _ hitem' _ => simp [item?_append_eq_none hitem hu] at hitem'

end Splits

end DotBinding.Dot

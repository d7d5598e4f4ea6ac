import DotBinding.Proofs.Dot.Patterns
import DotBinding.Proofs.Dot.Splitting

/-!
# Where tokens stand

The tokens of a text are slices of it, one behind the other, and what stands in front of them,
between them and behind them is white space and complete comments. Every token has the line and the
column of the offset at which its slice starts, and the end of the text those of its length. A text
that cannot be split is covered in the same way up to the first place where no pattern matches, and
that place is the one reported.
-/

namespace DotBinding

namespace Position

/-- The offset of the last line feed of a text, or -1 if it has none. -/
def lastLineFeed (cs : List Char) : Int :=
  cs.zipIdx.foldl (fun last x => if x.1 = '\n' then (x.2 : Int) else last) (-1)

/-- Whether a place is that of an offset in a text: its line is one more than the line feeds in
front of it, and its column is the distance from the last of them. -/
structure IsAt (p : Position) (source : List Char) (offset : Nat) : Prop where
  line_eq : p.line = 1 + (source.take offset).count '\n'
  col_eq : (p.col : Int) = offset - lastLineFeed (source.take offset)

lemma lastLineFeed_append_singleton (cs : List Char) (c : Char) :
    lastLineFeed (cs ++ [c]) = if c = '\n' then (cs.length : Int) else lastLineFeed cs := by
  simp [lastLineFeed, List.zipIdx_append]

lemma col_after_start (cs : List Char) :
    ((start.after cs).col : Int) = cs.length - lastLineFeed cs := by
  induction cs using List.reverseRecOn with
  | nil => rfl
  | append_singleton cs c ih =>
    have hnext : start.after (cs ++ [c]) = (start.after cs).next c := by
      rw [after_append]
      rfl
    rw [hnext, lastLineFeed_append_singleton, List.length_append, next]
    split
    · simp only [List.length_singleton]
      omega
    · simp only [List.length_singleton]
      omega

lemma isAt_after (cs rest : List Char) : (start.after cs).IsAt (cs ++ rest) cs.length := by
  refine ⟨?_, ?_⟩
  · rw [List.take_left, line_after]
    rfl
  · rw [List.take_left, col_after_start]

end Position

namespace Dot

open Scanner

/-! ## Gaps -/

/-- Whether a text in front of another one consists of blanks and complete comments: a comment that
goes on to the end of its line is complete in front of a line feed and at the end. -/
inductive Skipped : (gap rest : List Char) → Prop where
  | nil (rest : List Char) : Skipped [] rest
  | blank {c : Char} {gap rest : List Char} (hc : Text.isBlank c = true) (h : Skipped gap rest) :
      Skipped (c :: gap) rest
  | lineComment {w gap rest : List Char} (hw : LineComment w)
      (hend : ∀ d ∈ (gap ++ rest).head?, d = '\n') (h : Skipped gap rest) : Skipped (w ++ gap) rest
  | blockComment {w gap rest : List Char} (hw : BlockComment w) (h : Skipped gap rest) :
      Skipped (w ++ gap) rest

lemma Skipped.append {gap gap' rest : List Char} (h : Skipped gap (gap' ++ rest))
    (h' : Skipped gap' rest) : Skipped (gap ++ gap') rest := by
  generalize hbehind : gap' ++ rest = behind at h
  induction h with
  | nil => exact h'
  | blank hc _ ih => exact .blank hc (ih hbehind)
  | lineComment hw hend _ ih =>
    subst hbehind
    rw [List.append_assoc]
    refine .lineComment hw ?_ (ih rfl)
    rwa [List.append_assoc]
  | blockComment hw _ ih =>
    rw [List.append_assoc]
    exact .blockComment hw (ih hbehind)

lemma Skipped.of_blanks {w : List Char} (hw : ∀ d ∈ w, Text.isBlank d = true) (rest : List Char) :
    Skipped w rest := by
  induction w with
  | nil => exact .nil rest
  | cons c w ih =>
    obtain ⟨hc, hw⟩ := List.forall_mem_cons.mp hw
    exact .blank hc (ih hw)

lemma Skipped.of_gap? {c : Char} {rest : List Char} {n : Nat} (h : gap? c rest = some n) :
    Skipped (c :: rest.take n) (rest.drop n) := by
  rcases gap?_cases h with hblank | ⟨hline, hend⟩ | hblock
  · exact .of_blanks hblank _
  · simpa using @Skipped.lineComment _ [] _ hline hend (.nil _)
  · simpa using Skipped.blockComment hblock (.nil (rest.drop n))

/-- Whether what stands between two offsets of a text is only passed over. -/
structure IsGap (source : List Char) (i j : Nat) : Prop where
  le : i ≤ j
  skipped : Skipped ((source.take j).drop i) (source.drop j)

lemma IsGap.refl (source : List Char) (i : Nat) : IsGap source i i := by
  refine ⟨Nat.le_refl i, ?_⟩
  rw [List.drop_take, Nat.sub_self, List.take_zero]
  exact .nil _

lemma IsGap.trans {source : List Char} {i j k : Nat} (h : IsGap source i j)
    (h' : IsGap source j k) : IsGap source i k := by
  have hij := h.le
  have hjk := h'.le
  have hfirst : (source.take k).drop i = (source.take j).drop i ++ (source.take k).drop j := by
    have hsum : k - i = (j - i) + (k - j) := by omega
    have hskip : i + (j - i) = j := by omega
    rw [List.drop_take, List.drop_take, List.drop_take, hsum, List.take_add, List.drop_drop, hskip]
  have hbehind : (source.take k).drop j ++ source.drop k = source.drop j := by
    have hskip : j + (k - j) = k := by omega
    rw [List.drop_take]
    nth_rewrite 2 [← hskip]
    rw [← List.drop_drop, List.take_append_drop]
  refine ⟨Nat.le_trans h.le h'.le, ?_⟩
  rw [hfirst]
  refine Skipped.append ?_ h'.skipped
  rw [hbehind]
  exact h.skipped

lemma isGap_append {before gap rest : List Char} (h : Skipped gap rest) :
    IsGap (before ++ (gap ++ rest)) before.length (before ++ gap).length := by
  refine ⟨by rw [List.length_append]; exact Nat.le_add_right _ _, ?_⟩
  rw [← List.append_assoc, List.take_left, List.drop_left, List.drop_left]
  exact h

/-! ## Tokens at offsets -/

/-- A token and the offset at which it starts. -/
structure Placed where
  offset : Nat
  token : Token

namespace Placed

def text (x : Placed) : List Char :=
  x.token.lexeme.text.toList

/-- The offset behind the last character. -/
def stop (x : Placed) : Nat :=
  x.offset + x.text.length

end Placed

/-- Whether tokens and what stands in front of them, between them and behind them make up a text
from one offset to another. -/
structure Covers (source : List Char) (start : Nat) (placed : List Placed) (stop : Nat) :
    Prop where
  slices : ∀ x ∈ placed, x.text ≠ [] ∧ x.text <+: source.drop x.offset
  apart : placed.Pairwise fun x y => x.stop ≤ y.offset
  gaps : ∀ g ∈ (start :: placed.map Placed.stop).zip (placed.map Placed.offset ++ [stop]),
    IsGap source g.1 g.2
  places : ∀ x ∈ placed, x.token.position.IsAt source x.offset

namespace Covers

variable {source : List Char} {i j stop : Nat} {placed : List Placed} {x : Placed}

lemma nil (source : List Char) (i : Nat) : Covers source i [] i := by
  refine ⟨by simp, .nil, ?_, by simp⟩
  simpa using IsGap.refl source i

lemma gap (hgap : IsGap source i j) (h : Covers source j placed stop) :
    Covers source i placed stop := by
  refine ⟨h.slices, h.apart, ?_, h.places⟩
  have hgaps := h.gaps
  cases placed with
  | nil =>
    simp only [List.map_nil, List.nil_append, List.zip_cons_cons, List.zip_nil_right,
      List.forall_mem_singleton] at hgaps ⊢
    exact hgap.trans hgaps
  | cons x rest =>
    simp only [List.map_cons, List.cons_append, List.zip_cons_cons, List.forall_mem_cons]
      at hgaps ⊢
    exact ⟨hgap.trans hgaps.1, hgaps.2⟩

lemma le_offset (h : Covers source i placed stop) : ∀ x ∈ placed, i ≤ x.offset := by
  have hgaps := h.gaps
  have hapart := h.apart
  cases placed with
  | nil => simp
  | cons x rest =>
    simp only [List.map_cons, List.cons_append, List.zip_cons_cons, List.forall_mem_cons] at hgaps
    rw [List.pairwise_cons] at hapart
    have hfirst : i ≤ x.offset := hgaps.1.le
    refine List.forall_mem_cons.mpr ⟨hfirst, fun y hy => ?_⟩
    have hstop : x.offset + x.text.length ≤ y.offset := hapart.1 y hy
    omega

lemma token (htext : x.text ≠ []) (hslice : x.text <+: source.drop x.offset)
    (hplace : x.token.position.IsAt source x.offset) (h : Covers source x.stop placed stop) :
    Covers source x.offset (x :: placed) stop := by
  refine ⟨List.forall_mem_cons.mpr ⟨⟨htext, hslice⟩, h.slices⟩,
    List.pairwise_cons.mpr ⟨h.le_offset, h.apart⟩, ?_,
    List.forall_mem_cons.mpr ⟨hplace, h.places⟩⟩
  simp only [List.map_cons, List.cons_append, List.zip_cons_cons, List.forall_mem_cons]
  exact ⟨IsGap.refl source x.offset, h.gaps⟩

end Covers

/-- Tokens in front of those of a text that is split further on. -/
def Tokens.behind (placed : List Placed) (ts : Tokens) : Tokens :=
  ⟨placed.map Placed.token ++ ts.items, ts.stop⟩

/-- A text that splits up to some place is covered up to that place, and splitting goes on there. -/
lemma Splits.covers {s tail : List Char} {items : List Lexeme} (h : Splits s items tail)
    (before : List Char) :
    ∃ passed placed, s = passed ++ tail ∧ placed.map (fun x => x.token.lexeme) = items ∧
      Covers (before ++ s) before.length placed (before ++ passed).length ∧
      scanFrom (Position.start.after before) 0 s =
        (scanFrom (Position.start.after (before ++ passed)) 0 tail).map (Tokens.behind placed) := by
  induction h generalizing before with
  | done cs =>
    refine ⟨[], [], rfl, rfl, ?_, ?_⟩
    · rw [List.append_nil]
      exact Covers.nil _ _
    · rw [List.append_nil]
      cases scanFrom (Position.start.after before) 0 cs <;> rfl
  | @gap c rest tail items n hgap _ ih =>
    obtain ⟨passed, placed, hrest, hitems, hcovers, hscan⟩ := ih (before ++ c :: rest.take n)
    have hwhole : before ++ c :: rest.take n ++ rest.drop n = before ++ c :: rest := by simp
    have hfirst := @isGap_append before _ _ (Skipped.of_gap? hgap)
    rw [← List.append_assoc, hwhole] at hfirst
    rw [hwhole] at hcovers
    refine ⟨c :: rest.take n ++ passed, placed, ?_, hitems, ?_, ?_⟩
    · rw [List.append_assoc, ← hrest, List.cons_append, List.take_append_drop]
    · rw [← List.append_assoc]
      exact .gap hfirst hcovers
    · rw [← List.append_assoc, ← hscan, scanFrom, hgap, Position.after_append]
      exact scanFrom_skip _ n rest
  | @item c rest tail items l n hgap hitem _ ih =>
    obtain ⟨passed, placed, hrest, hitems, hcovers, hscan⟩ := ih (before ++ c :: rest.take n)
    have hwhole : before ++ c :: rest.take n ++ rest.drop n = before ++ c :: rest := by simp
    rw [hwhole] at hcovers
    let x : Placed := ⟨before.length, l, Position.start.after before⟩
    have htext : x.text = c :: rest.take n := text_of_item? hitem
    refine ⟨c :: rest.take n ++ passed, x :: placed, ?_, ?_, ?_, ?_⟩
    · rw [List.append_assoc, ← hrest, List.cons_append, List.take_append_drop]
    · rw [List.map_cons, hitems]
    · rw [← List.append_assoc]
      refine Covers.token (x := x) ?_ ?_ ?_ ?_
      · simp [htext]
      · rw [htext, List.drop_left]
        exact ⟨rest.drop n, by simp⟩
      · exact Position.isAt_after before _
      · rw [Placed.stop, htext, ← List.length_append]
        exact hcovers
    · rw [scanFrom, hgap]
      simp only [hitem]
      rw [scanFrom_skip]
      rw [Position.after_append] at hscan
      change (scanFrom ((Position.start.after before).after (c :: rest.take n)) 0 _).map _ = _
      rw [hscan, ← List.append_assoc]
      cases scanFrom (Position.start.after (before ++ c :: rest.take n ++ passed)) 0 tail <;> rfl

/-- The tokens of a text are slices of it at rising offsets that do not overlap, with nothing but
white space and complete comments around them, and have the places of their offsets; the end has the
place of the length. A text that does not split is covered in this way up to the first offset that
splitting comes to and where no pattern matches; the character there is reported at its place. -/
theorem scan_covers (source : String) :
    match scan source with
    | .ok ts => ∃ placed, ts.items = placed.map Placed.token ∧
        Covers source.toList 0 placed source.toList.length ∧
        ts.stop.IsAt source.toList source.toList.length
    | .error e => ∃ placed stop c rest, Covers source.toList 0 placed stop ∧
        source.toList.drop stop = c :: rest ∧
        Splits source.toList (placed.map fun x => x.token.lexeme) (c :: rest) ∧
        (∀ (p : Pattern) (w : List Char), w <+: c :: rest → ¬p.Matches w) ∧
        e.fault = .unexpectedCharacter c ∧ e.position.IsAt source.toList stop := by
  rcases Splits.exists_end_or_stuck source.toList with
    ⟨items, hsplits⟩ | ⟨items, c, rest, hsplits, hgap, hitem⟩
  · obtain ⟨passed, placed, hpassed, -, hcovers, hscan⟩ := hsplits.covers []
    rw [List.append_nil] at hpassed
    obtain rfl : source.toList = passed := hpassed
    have hok : scan source =
        .ok ⟨placed.map Placed.token ++ [], Position.start.after source.toList⟩ := hscan
    rw [List.append_nil] at hok
    rw [hok]
    refine ⟨placed, rfl, hcovers, ?_⟩
    simpa using Position.isAt_after source.toList []
  · obtain ⟨passed, placed, hpassed, rfl, hcovers, hscan⟩ := hsplits.covers []
    have herror : scan source =
        .error ⟨.unexpectedCharacter c, Position.start.after passed⟩ := by
      refine hscan.trans ?_
      rw [scanFrom, hgap]
      simp only [hitem]
      rfl
    rw [herror]
    refine ⟨placed, passed.length, c, rest, hcovers, ?_, hsplits,
      fun p _ => Pattern.not_matches_of_stuck hgap hitem p, rfl, ?_⟩
    · rw [hpassed, List.drop_left]
    · rw [hpassed]
      exact Position.isAt_after passed _

/-- A comment and a quoted text, each with a line end inside, and a comment at the end. -/
def brokenLines : String :=
  "/* a\n */ \"b\n\" c // d"

/-- A character that begins nothing, behind a quoted text with a line end inside. -/
def strayCharacter : String :=
  "\"\n\" $"

/-- Both runs of the splitting, with the places counted from the last line end. -/
theorem scan_brokenLines :
    scan brokenLines = .ok ⟨[⟨.quoted "b\n", ⟨2, 5⟩⟩, ⟨.word "c", ⟨3, 3⟩⟩], ⟨3, 9⟩⟩ ∧
    (∃ placed, placed.map Placed.token = [⟨.quoted "b\n", ⟨2, 5⟩⟩, ⟨.word "c", ⟨3, 3⟩⟩] ∧
      Covers brokenLines.toList 0 placed brokenLines.toList.length) ∧
    scan strayCharacter = .error ⟨.unexpectedCharacter '$', ⟨2, 3⟩⟩ ∧
    ∃ stop rest, strayCharacter.toList.drop stop = '$' :: rest ∧
      (∀ (p : Pattern) (w : List Char), w <+: '$' :: rest → ¬p.Matches w) ∧
      Position.IsAt ⟨2, 3⟩ strayCharacter.toList stop := by
  have hlines : scan brokenLines =
      .ok ⟨[⟨.quoted "b\n", ⟨2, 5⟩⟩, ⟨.word "c", ⟨3, 3⟩⟩], ⟨3, 9⟩⟩ := rfl
  have hstray : scan strayCharacter = .error ⟨.unexpectedCharacter '$', ⟨2, 3⟩⟩ := rfl
  refine ⟨hlines, ?_, hstray, ?_⟩
  · have hcovers := scan_covers brokenLines
    rw [hlines] at hcovers
    obtain ⟨placed, hitems, hcovers, -⟩ := hcovers
    exact ⟨placed, hitems.symm, hcovers⟩
  · have hcovers := scan_covers strayCharacter
    rw [hstray] at hcovers
    obtain ⟨-, stop, c, rest, -, hdrop, -, hpatterns, hfault, hplace⟩ := hcovers
    obtain rfl := Fault.unexpectedCharacter.inj hfault
    exact ⟨stop, rest, hdrop, hpatterns, hplace⟩

end Dot

end DotBinding

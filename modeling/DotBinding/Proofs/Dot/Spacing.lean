import DotBinding.Proofs.Dot.Patterns
import DotBinding.Proofs.Dot.Splitting

/-!
# Items laid out anew

The items of a text written out again, with other white space and other comments between them. As
long as something stands between any two of them, the new text splits into the same items, so it is
read as the same graphs or has the same fault. White space is ASCII here: other blanks may be part
of a word in front of them.
-/

namespace DotBinding

/-- Blanks among the ASCII characters are no more than a space. -/
lemma Text.toNat_le_of_isBlank {c : Char} (h : isBlank c = true) (hascii : c.toNat < 128) :
    c.toNat ≤ 32 := by
  have hranges : ∀ r ∈ blanks, r.last ≤ 32 ∨ 128 ≤ r.first := by decide
  obtain ⟨r, hr, hc⟩ := List.any_eq_true.mp h
  rw [CodeRange.contains_iff] at hc
  have hout := hranges r hr
  omega

namespace Dot

open Scanner

namespace Scanner

lemma isWordPart_eq_false {c : Char} (h : c.toNat ≤ 32) : isWordPart c = false := by
  have hstart : isAsciiWordStart c = false := by
    by_contra hstart
    have hbounds := toNat_of_isAsciiWordStart ((Bool.not_eq_false _).mp hstart)
    omega
  have hrange : (CodeRange.mk 0x80 0xffff).contains c = false := by
    rw [← Bool.not_eq_true, CodeRange.contains_iff]
    rintro ⟨hfirst, -⟩
    exact absurd (Nat.le_trans hfirst h) (by decide)
  have hdigit : c.isDigit = false := by
    by_contra hdigit
    have hbounds := (Bool.and_eq_true _ _).mp ((Bool.not_eq_false _).mp hdigit)
    have hfirst : '0'.val ≤ c.val := of_decide_eq_true hbounds.1
    exact absurd (Nat.le_trans hfirst h) (by decide)
  simp [isWordPart, isWordStart, hstart, hrange, hdigit]

lemma isStop_of_isBlank {c : Char} (h : Text.isBlank c = true) (hascii : c.toNat < 128) :
    isStop c = true := by
  have hc := Text.toNat_le_of_isBlank h hascii
  rw [isStop_iff]
  refine ⟨isWordPart_eq_false hc, ?_, ?_⟩
  · by_contra hdigit
    rw [Text.isBlank_eq_false_of_isDecimalDigit ((Bool.not_eq_false _).mp hdigit)] at h
    cases h
  · rintro rfl
    exact absurd hc (by decide)

end Scanner

/-! ## What may stand between items -/

/-- White space and complete comments, those up to the end of a line with the line end. -/
inductive Spacing : List Char → Prop where
  | nil : Spacing []
  | blank {c : Char} {s : List Char} (hc : Text.isBlank c = true) (hascii : c.toNat < 128)
      (h : Spacing s) : Spacing (c :: s)
  | lineComment {w s : List Char} (hw : LineComment w) (h : Spacing s) : Spacing (w ++ '\n' :: s)
  | blockComment {w s : List Char} (hw : BlockComment w) (h : Spacing s) : Spacing (w ++ s)

namespace Spacing

variable {w s : List Char} {items : List Lexeme}

lemma isStop_head (h : Spacing w) (hne : w ≠ []) : ∃ d t, w = d :: t ∧ isStop d = true := by
  cases h with
  | nil => exact absurd rfl hne
  | blank hc hascii => exact ⟨_, _, rfl, isStop_of_isBlank hc hascii⟩
  | lineComment hw => cases hw <;> exact ⟨_, _, rfl, by decide +kernel⟩
  | blockComment hw => cases hw; exact ⟨_, _, rfl, by decide +kernel⟩

/-- Spacing in front of a text changes nothing about its items. -/
lemma splits_append (h : Spacing w) (hs : Splits s items []) : Splits (w ++ s) items [] := by
  induction h with
  | nil => exact hs
  | blank hc _ _ ih => exact (Splits.blank_cons_iff hc).mpr ih
  | @lineComment w behind hw _ ih =>
    have hline : Splits ('\n' :: (behind ++ s)) items [] :=
      (Splits.blank_cons_iff (by decide)).mpr ih
    obtain ⟨c, w, rfl⟩ : ∃ c v, w = c :: v := by cases hw <;> exact ⟨_, _, rfl⟩
    rw [List.append_assoc]
    refine .gap (gap?_of_lineComment hw (by simp)) ?_
    exact (@List.drop_left _ w _).symm ▸ hline
  | @blockComment w behind hw _ ih =>
    obtain ⟨c, w, rfl⟩ : ∃ c v, w = c :: v := by cases hw; exact ⟨_, _, rfl⟩
    rw [List.append_assoc]
    refine .gap (gap?_of_blockComment hw _) ?_
    exact (@List.drop_left _ w _).symm ▸ ih

end Spacing

/-! ## Laying items out -/

/-- Items with something in front of the first one and something behind each of them. -/
def spread (first : List Char) (spaced : List (Lexeme × List Char)) : String :=
  String.ofList (first ++ spaced.flatMap fun x => x.1.text.toList ++ x.2)

lemma splits_spread {s tail : List Char} {items : List Lexeme} (h : Splits s items tail)
    {spaced : List (Lexeme × List Char)} (hitems : spaced.map Prod.fst = items)
    (hspacing : ∀ x ∈ spaced, Spacing x.2) (hapart : ∀ x ∈ spaced.dropLast, x.2 ≠ []) :
    Splits (spaced.flatMap fun x => x.1.text.toList ++ x.2) items [] := by
  induction h generalizing spaced with
  | done =>
    rw [List.map_eq_nil_iff.mp hitems]
    exact .done []
  | gap _ _ ih => exact ih hitems hspacing hapart
  | @item c rest tail items l n hgap hitem _ ih =>
    obtain ⟨x, more, rfl, rfl, hmore⟩ := List.map_eq_cons_iff.mp hitems
    obtain ⟨hx, hspacing⟩ := List.forall_mem_cons.mp hspacing
    have hlater : ∀ y ∈ more.dropLast, y.2 ≠ [] := by
      cases more with
      | nil => simp
      | cons y ys => exact (List.forall_mem_cons.mp hapart).2
    have hrest := ih hmore hspacing hlater
    -- behind the last item there may be nothing; behind every other one something stops it
    have hstop : x.2 ++ (more.flatMap fun x => x.1.text.toList ++ x.2) = [] ∨
        ∃ d t, x.2 ++ (more.flatMap fun x => x.1.text.toList ++ x.2) = d :: t ∧
          isStop d = true := by
      by_cases hnone : x.2 = []
      · left
        cases more with
        | nil => simp [hnone]
        | cons y ys => exact absurd hnone (hapart x List.mem_cons_self)
      · obtain ⟨d, t, ht, hd⟩ := hx.isStop_head hnone
        exact Or.inr ⟨d, _, by rw [ht, List.cons_append], hd⟩
    rw [List.flatMap_cons, text_of_item? hitem, List.append_assoc, List.cons_append]
    refine .item (gap?_of_item hgap hitem _) (item?_take_append hitem hstop) ?_
    rw [List.drop_left' (List.length_take_of_le (item?_le hitem))]
    exact hx.splits_append hrest

/-! ## Reading without places -/

lemma mapError_map {α β ε ε' : Type} (f : ε → ε') (g : α → β) (r : Except ε α) :
    (r.map g).mapError f = (r.mapError f).map g := by
  cases r <;> rfl

lemma mapError_readFrom {stop stop' : Position} {p : Point} {tokens tokens' : List Token}
    (h : tokens.map Token.lexeme = tokens'.map Token.lexeme) :
    (readFrom stop p tokens).mapError ParseError.fault =
      (readFrom stop' p tokens').mapError ParseError.fault := by
  induction tokens generalizing p tokens' with
  | nil =>
    rw [List.map_nil, eq_comm, List.map_eq_nil_iff] at h
    subst h
    rw [readFrom, readFrom]
    cases p.missing? <;> rfl
  | cons t rest ih =>
    rw [List.map_cons, eq_comm] at h
    obtain ⟨t', rest', rfl, ht, hrest⟩ := List.map_eq_cons_iff.mp h
    have hnext (next : Point) := ih (p := next) hrest.symm
    rw [readFrom, readFrom, ht]
    cases p.step t.lexeme with
    | error f => rfl
    | ok taken =>
      obtain ⟨next, completed⟩ := taken
      cases completed with
      | none => exact hnext next
      | some g =>
        change ((readFrom stop next rest).map (g :: ·)).mapError _ =
          ((readFrom stop' next rest').map (g :: ·)).mapError _
        rw [mapError_map, mapError_map, hnext next]

/-- The items of a text, laid out with other spacing in front of the first, between any two and
behind the last, are the items of the new text, whatever the spacing is, as long as there is some
between any two. The new text is read as the same graphs, or has the same fault. -/
theorem scan_spread {source : String} {tokens : Tokens} (h : scan source = .ok tokens)
    {first : List Char} {spaced : List (Lexeme × List Char)}
    (hitems : spaced.map Prod.fst = tokens.items.map Token.lexeme) (hfirst : Spacing first)
    (hspacing : ∀ x ∈ spaced, Spacing x.2) (hapart : ∀ x ∈ spaced.dropLast, x.2 ≠ []) :
    ∃ tokens', scan (spread first spaced) = .ok tokens' ∧
      tokens'.items.map Token.lexeme = tokens.items.map Token.lexeme ∧
      (parse (spread first spaced)).mapError ParseError.fault =
        (parse source).mapError ParseError.fault := by
  have hsplits := hfirst.splits_append
    (splits_spread (splits_of_scanFrom h) hitems hspacing hapart)
  rw [← scans_iff_splits] at hsplits
  obtain ⟨tokens', hscan, hsame⟩ := hsplits .start
  have hscan' : scan (spread first spaced) = .ok tokens' := by
    rw [scan, spread, String.toList_ofList, hscan]
  refine ⟨tokens', hscan', hsame, ?_⟩
  rw [parse, parse, hscan', h]
  exact mapError_readFrom hsame

/-- An edge without a blank in its text. -/
def compactEdge : String :=
  "digraph\x7bA->1;\x7d"

/-- The items of the edge, each with a blank, a line end or a comment behind it. -/
def spacedEdge : List (Lexeme × List Char) :=
  [(.word "digraph", [' ']), (.mark .openBrace, "#->\n".toList), (.word "A", "/* ; */".toList),
    (.edgeOp .arrow, ['\n']), (.numeral "1", "// ;\n".toList), (.mark .semicolon, [' ']),
    (.mark .closeBrace, [])]

theorem scan_spread_spacedEdge :
    spread [] spacedEdge = "digraph \x7b#->\nA/* ; */->\n1// ;\n; \x7d" ∧
    (∀ x ∈ spacedEdge, Spacing x.2) ∧ (∀ x ∈ spacedEdge.dropLast, x.2 ≠ []) ∧
    ∃ tokens tokens', scan compactEdge = .ok tokens ∧ scan (spread [] spacedEdge) = .ok tokens' ∧
      tokens'.items.map Token.lexeme = tokens.items.map Token.lexeme ∧
      (parse (spread [] spacedEdge)).mapError ParseError.fault =
        (parse compactEdge).mapError ParseError.fault := by
  have harrow : LineComment ['#', '-', '>'] := .hash (by decide)
  have hhash : Spacing "#->\n".toList := .lineComment harrow .nil
  have hinner : BlockComment ['/', '*', ' ', ';', ' ', '*', '/'] :=
    @BlockComment.mk [' ', ';', ' '] (by decide)
  have hblock : Spacing "/* ; */".toList := .blockComment hinner .nil
  have hrest : LineComment ['/', '/', ' ', ';'] := .slashes (by decide)
  have hslashes : Spacing "// ;\n".toList := .lineComment hrest .nil
  have hspace : Spacing [' '] := .blank (by decide) (by decide) .nil
  have hbreak : Spacing ['\n'] := .blank (by decide) (by decide) .nil
  have hspacing : ∀ x ∈ spacedEdge, Spacing x.2 := by
    simp only [spacedEdge, List.forall_mem_cons]
    exact ⟨hspace, hhash, hblock, hbreak, hslashes, hspace, .nil, by simp⟩
  have hapart : ∀ x ∈ spacedEdge.dropLast, x.2 ≠ [] := by decide
  obtain ⟨tokens', hscan, hsame⟩ :=
    @scan_spread compactEdge _ rfl [] spacedEdge rfl .nil hspacing hapart
  exact ⟨by decide, hspacing, hapart, _, tokens', rfl, hscan, hsame⟩

end Dot

end DotBinding

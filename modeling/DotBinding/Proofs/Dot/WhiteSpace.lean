import DotBinding.Proofs.Dot.Spacing

/-!
# White space and words

What a text is split into when every blank that stands neither between quotes nor in a comment is
replaced by a space. Blanks are told apart at the place where an item may begin, and any of them is
passed over there. Inside a word nothing is looked at but its own characters, and these are all that
are not ASCII: the blanks among them go on with the word. So the items stay the same exactly if no
word holds a blank, and blanks that are ASCII always separate.
-/

namespace DotBinding.Dot

open Scanner

namespace Scanner

/-! ## Replacing blanks -/

/-- How many characters behind the first one belong to a quoted text or to a comment, a comment that
its line ends being taken with the line end. -/
def enclosed? (c : Char) (rest : List Char) : Option Nat :=
  if c = '"' then (bodyLength? rest).map (· + 1)
  else if c = '#' then some (lineLength rest + 1)
  else if c = '/' then
    match rest with
    | '/' :: _ => some (lineLength rest + 1)
    | '*' :: body => (commentRest? body).map (· + 1)
    | _ => none
  else none

/-- A space for a blank. -/
def spaceFor (c : Char) : Char :=
  if Text.isBlank c then ' ' else c

/-- A text with its blanks replaced, those between quotes and in comments excepted. The first `skip`
characters belong to what was found before. -/
def respaceFrom : (skip : Nat) → List Char → List Char
  | _, [] => []
  | skip + 1, c :: rest => c :: respaceFrom skip rest
  | 0, c :: rest =>
    match enclosed? c rest with
    | some n => c :: respaceFrom n rest
    | none => spaceFor c :: respaceFrom 0 rest

end Scanner

def respaced (source : String) : String :=
  String.ofList (respaceFrom 0 source.toList)

namespace Scanner

variable {c : Char} {rest w : List Char} {l : Lexeme} {n : Nat}

/-- Whether neither a quoted text nor a comment begins with a character. -/
def isPlain (c : Char) : Bool :=
  ['"', '#', '/'].all (· != c)

lemma isPlain_eq_false_iff : isPlain c = false ↔ c = '"' ∨ c = '#' ∨ c = '/' := by
  rw [← Bool.not_eq_true]
  simp only [isPlain, List.all_cons, List.all_nil, Bool.and_true, Bool.and_eq_true, bne_iff_ne,
    not_and_or, ne_eq, not_not, @eq_comm _ _ c]

lemma ne_of_isPlain {d e : Char} (h : isPlain d = true) (he : isPlain e = false) : d ≠ e := by
  rintro rfl
  rw [h] at he
  contradiction

lemma enclosed?_eq_none (h : isPlain c = true) (rest : List Char) : enclosed? c rest = none := by
  unfold enclosed?
  rw [if_neg (ne_of_isPlain h (by decide)), if_neg (ne_of_isPlain h (by decide)),
    if_neg (ne_of_isPlain h (by decide))]

lemma isBlank_eq_false_of_not_isPlain (h : isPlain c = false) : Text.isBlank c = false := by
  rcases isPlain_eq_false_iff.1 h with rfl | rfl | rfl <;> decide

lemma isPlain_of_isBlank (h : Text.isBlank c = true) : isPlain c = true := by
  by_contra hplain
  rw [isBlank_eq_false_of_not_isPlain (Bool.eq_false_iff.2 hplain)] at h
  cases h

lemma spaceFor_of_not_isBlank (h : Text.isBlank c = false) : spaceFor c = c := by
  rw [spaceFor, h]
  rfl

lemma respaceFrom_skip (n : Nat) (cs : List Char) :
    respaceFrom n cs = cs.take n ++ respaceFrom 0 (cs.drop n) := by
  induction cs generalizing n with
  | nil => cases n <;> rfl
  | cons c rest ih =>
    cases n with
    | zero => rfl
    | succ n => rw [respaceFrom, ih, List.take_succ_cons, List.drop_succ_cons, List.cons_append]

lemma respaceFrom_of_enclosed? (h : enclosed? c rest = some n) :
    respaceFrom 0 (c :: rest) = c :: (rest.take n ++ respaceFrom 0 (rest.drop n)) := by
  rw [respaceFrom, h]
  exact congrArg (c :: ·) (respaceFrom_skip n rest)

lemma exists_eq_cons_of_take_eq_cons (h : rest.take n = c :: w) : ∃ more, rest = c :: more := by
  obtain ⟨t, ht⟩ := List.take_prefix n rest
  rw [h] at ht
  exact ⟨w ++ t, ht.symm⟩

lemma enclosed?_of_lineComment (hgap : gap? c rest = some n)
    (hline : LineComment (c :: rest.take n)) : enclosed? c rest = some (n + 1) := by
  generalize hw : rest.take n = w at hline
  cases hline with
  | hash =>
    obtain rfl := Option.some.inj hgap
    rfl
  | slashes =>
    obtain ⟨more, rfl⟩ := exists_eq_cons_of_take_eq_cons hw
    obtain rfl := Option.some.inj hgap
    rfl

lemma enclosed?_of_blockComment (hgap : gap? c rest = some n)
    (hblock : BlockComment (c :: rest.take n)) : enclosed? c rest = some n := by
  generalize hw : rest.take n = w at hblock
  cases hblock with
  | mk =>
    obtain ⟨more, rfl⟩ := exists_eq_cons_of_take_eq_cons hw
    exact hgap

lemma respaceFrom_plain_append (hw : ∀ d ∈ w, isPlain d = true) (rest : List Char) :
    respaceFrom 0 (w ++ rest) = w.map spaceFor ++ respaceFrom 0 rest := by
  induction w with
  | nil => rfl
  | cons d w ih =>
    rw [List.cons_append, respaceFrom, enclosed?_eq_none (hw d List.mem_cons_self)]
    exact congrArg (spaceFor d :: ·) (ih fun e he => hw e (List.mem_cons_of_mem d he))

/-- The first character stays, or a space takes its place. -/
lemma exists_respaceFrom_cons (d : Char) (t : List Char) :
    ∃ t', respaceFrom 0 (d :: t) = spaceFor d :: t' := by
  cases h : enclosed? d t with
  | none => exact ⟨respaceFrom 0 t, by rw [respaceFrom, h]⟩
  | some n =>
    have hplain : isPlain d = false := by
      by_contra hplain
      rw [enclosed?_eq_none ((Bool.not_eq_false _).mp hplain)] at h
      cases h
    rw [spaceFor_of_not_isBlank (isBlank_eq_false_of_not_isPlain hplain),
      respaceFrom_of_enclosed? h]
    exact ⟨_, rfl⟩

/-! ## The characters of items -/

lemma isWordPart_of_isWordStart (h : isWordStart c = true) : isWordPart c = true := by
  rw [isWordPart, h, Bool.true_or]

lemma isPlain_of_isWordPart (h : isWordPart c = true) : isPlain c = true := by
  by_contra hplain
  rcases isPlain_eq_false_iff.1 (Bool.eq_false_iff.2 hplain) with rfl | rfl | rfl <;>
    exact absurd h (by decide)

lemma isPlain_of_isDecimalDigit (h : Text.isDecimalDigit c = true) : isPlain c = true := by
  by_contra hplain
  rcases isPlain_eq_false_iff.1 (Bool.eq_false_iff.2 hplain) with rfl | rfl | rfl <;>
    exact absurd h (by decide +kernel)

lemma isWordPart_iff_of_isBlank (h : Text.isBlank c = true) :
    isWordPart c = true ↔ 128 ≤ c.toNat := by
  constructor
  · intro hpart
    by_contra hascii
    rw [isWordPart_eq_false (Text.toNat_le_of_isBlank h (by omega))] at hpart
    cases hpart
  · intro hwide
    have hranges : ∀ r ∈ Text.blanks, r.last ≤ 0xffff := by decide
    obtain ⟨r, hr, hc⟩ := List.any_eq_true.mp h
    rw [CodeRange.contains_iff] at hc
    have hrange : (CodeRange.mk 0x80 0xffff).contains c = true :=
      (CodeRange.contains_iff _ _).2 ⟨hwide, Nat.le_trans hc.2 (hranges r hr)⟩
    exact isWordPart_of_isWordStart (by rw [isWordStart, hrange, Bool.or_true])

/-- The characters of an item that is not quoted: none of them begins a quoted text or a comment,
and blanks are among them only if the item is a word. -/
lemma of_mem_item (h : item? c rest = some (l, n)) (hquote : c ≠ '"') {d : Char}
    (hd : d ∈ c :: rest.take n) :
    isPlain d = true ∧
      (isWordPart d = true ∧ (∃ name, l = .word name) ∨ Text.isBlank d = false) := by
  cases Begins.of_item? h with
  | quoted hc => exact absurd hc hquote
  | edgeOp op hop =>
    have hall : (op.text.toList.all fun d => isPlain d && !Text.isBlank d) = true := by
      cases op <;> decide
    have hchars : ∀ d ∈ op.text.toList, isPlain d = true ∧ Text.isBlank d = false := by
      simpa using hall
    have htext : c :: rest.take 1 = op.text.toList := by
      cases op <;> obtain ⟨rfl, rfl⟩ := List.cons.inj hop <;> rfl
    rw [htext] at hd
    exact ⟨(hchars d hd).1, Or.inr (hchars d hd).2⟩
  | @numeral k hn =>
    obtain ⟨m, rfl⟩ := Nat.exists_eq_succ_of_ne_zero (Nat.ne_of_gt (Numeral.length?_pos hn))
    rcases Numeral.mem_take_length? hn hd with hdigit | rfl | rfl
    · exact ⟨isPlain_of_isDecimalDigit hdigit,
        Or.inr (Text.isBlank_eq_false_of_isDecimalDigit hdigit)⟩
    · exact ⟨by decide, Or.inr (by decide)⟩
    · exact ⟨by decide, Or.inr (by decide)⟩
  | @mark m hc =>
    obtain rfl : d = m.char := by simpa [hc] using hd
    cases m <;> exact ⟨by decide, Or.inr (by decide)⟩
  | word hc hdigit hn =>
    have hpart : isWordPart d = true := by
      rcases List.mem_cons.1 hd with rfl | hd
      · exact isWordPart_of_isWordStart hc
      · rw [← hn, ← List.prefix_iff_eq_take.mp (List.takeWhile_prefix _)] at hd
        exact List.all_eq_true.mp List.all_takeWhile d hd
    exact ⟨isPlain_of_isWordPart hpart, Or.inl ⟨hpart, _, rfl⟩⟩

lemma word_of_item? {name : String} (h : item? c rest = some (.word name, n)) :
    name.toList = c :: rest.take n ∧ c ≠ '"' := by
  refine ⟨text_of_item? h, ?_⟩
  rintro rfl
  cases Begins.of_item? h with
  | word hc => exact absurd hc (by decide)

lemma map_spaceFor (hw : ∀ d ∈ w, Text.isBlank d = false) : w.map spaceFor = w :=
  (List.map_congr_left fun d hd => spaceFor_of_not_isBlank (hw d hd)).trans (List.map_id w)

/-- Behind its own characters an item sees no difference. -/
lemma item?_take_respaceFrom (h : item? c rest = some (l, n)) :
    item? c (rest.take n ++ respaceFrom 0 (rest.drop n)) = some (l, n) := by
  cases hbehind : rest.drop n with
  | nil => exact item?_take_append h (Or.inl rfl)
  | cons d t =>
    obtain ⟨t', ht'⟩ := exists_respaceFrom_cons d t
    rw [ht']
    cases hd : Text.isBlank d with
    | true =>
      rw [spaceFor, hd]
      exact item?_take_append h (Or.inr ⟨' ', t', rfl, by decide +kernel⟩)
    | false =>
      rw [spaceFor_of_not_isBlank hd]
      exact item?_take_cons h (by rw [hbehind]; rfl) t'

end Scanner

/-- Whether an item is no word with a blank in it. -/
def Lexeme.Solid (l : Lexeme) : Prop :=
  ∀ name, l = .word name → ∀ c ∈ name.toList, Text.isBlank c = false

namespace Scanner

variable {c : Char} {rest : List Char} {l : Lexeme} {n : Nat}

lemma respaceFrom_item (h : item? c rest = some (l, n)) (hquote : c ≠ '"') :
    respaceFrom 0 (c :: rest) =
      (c :: rest.take n).map spaceFor ++ respaceFrom 0 (rest.drop n) := by
  rw [← respaceFrom_plain_append fun d hd => (of_mem_item h hquote hd).1, List.cons_append,
    List.take_append_drop]

lemma respaceFrom_item_of_solid (h : item? c rest = some (l, n)) (hsolid : l.Solid) :
    respaceFrom 0 (c :: rest) = c :: (rest.take n ++ respaceFrom 0 (rest.drop n)) := by
  by_cases hquote : c = '"'
  · subst hquote
    cases Begins.of_item? h with
    | quoted _ hn => exact respaceFrom_of_enclosed? (by simp [enclosed?, hn])
    | edgeOp op hop => cases op <;> exact absurd (List.cons.inj hop).1 (by decide)
    | numeral hn =>
      exact absurd rfl (Numeral.ne_of_length? hn (by decide +kernel) (by decide) (by decide))
    | @mark m hc => cases m <;> exact absurd hc (by decide)
    | word hc => exact absurd hc (by decide)
  · have hblank : ∀ d ∈ c :: rest.take n, Text.isBlank d = false := by
      intro d hd
      rcases (of_mem_item h hquote hd).2 with ⟨-, name, rfl⟩ | hd'
      · exact hsolid name rfl d (by rwa [(word_of_item? h).1])
      · exact hd'
    rw [respaceFrom_item h hquote, map_spaceFor hblank, List.cons_append]

end Scanner

namespace Splits

variable {c : Char} {s rest tail : List Char} {items : List Lexeme} {l : Lexeme} {n : Nat}

lemma gap_iff (hgap : gap? c rest = some n) :
    Splits (c :: rest) items [] ↔ Splits (rest.drop n) items [] := by
  constructor
  · intro h
    cases h with
    | gap hgap' h =>
      obtain rfl := Option.some.inj (hgap.symm.trans hgap')
      exact h
    | item hgap' _ _ => simp [hgap] at hgap'
  · exact .gap hgap

lemma item_iff (hgap : gap? c rest = none) (hitem : item? c rest = some (l, n)) :
    Splits (c :: rest) (l :: items) [] ↔ Splits (rest.drop n) items [] := by
  constructor
  · intro h
    cases h with
    | gap hgap' _ => simp [hgap] at hgap'
    | item _ hitem' h =>
      obtain rfl : n = _ := (Prod.mk.inj (Option.some.inj (hitem.symm.trans hitem'))).2
      exact h
  · exact .item hgap hitem

/-- A word with a blank in it is not found where its blanks are replaced: the new text would have to
begin with the very characters of the word. -/
lemma solid_of_respaced (hgap : gap? c rest = none) (hitem : item? c rest = some (l, n))
    (h : Splits (respaceFrom 0 (c :: rest)) (l :: items) []) : l.Solid := by
  rintro name rfl d hd
  obtain ⟨hchars, hquote⟩ := word_of_item? hitem
  rw [hchars] at hd
  have hc : spaceFor c = c := by
    rw [spaceFor_of_not_isBlank]
    by_contra hblank
    rw [gap?_of_isBlank ((Bool.not_eq_false _).mp hblank)] at hgap
    cases hgap
  rw [respaceFrom_item hitem hquote, List.map_cons, hc, List.cons_append] at h
  cases h with
  | gap hgap' _ => simp [gap?_of_item hgap hitem] at hgap'
  | @item _ _ _ _ _ m _ hitem' _ =>
    have htext := (text_of_item? hitem).symm.trans (text_of_item? hitem')
    have hlength : (rest.take n).length ≤ m := by
      rw [(List.cons.inj htext).2]
      exact List.length_take_le m _
    have hsame : (rest.take n).map spaceFor = (rest.take n).map id := by
      have hcut := (List.cons.inj htext).2
      have hall : ((rest.take n).map spaceFor).take m = (rest.take n).map spaceFor :=
        List.take_of_length_le (by rwa [List.length_map])
      rw [List.take_append, hall] at hcut
      rw [List.map_id]
      exact (List.append_inj_left ((List.append_nil _).trans hcut) (List.length_map _).symm).symm
    have hkept : spaceFor d = d := by
      rcases List.mem_cons.1 hd with rfl | hd
      · exact hc
      · exact List.map_inj_left.1 hsame d hd
    rcases (of_mem_item hitem hquote hd).2 with ⟨hpart, -⟩ | hblank
    · by_contra hblank
      rw [spaceFor, if_pos ((Bool.not_eq_false _).mp hblank)] at hkept
      rw [← hkept] at hpart
      exact absurd hpart (by decide)
    · exact hblank

lemma respaceFrom_item_iff (hgap : gap? c rest = none) (hitem : item? c rest = some (l, n))
    (hsolid : l.Solid) : Splits (respaceFrom 0 (c :: rest)) (l :: items) [] ↔
      Splits (respaceFrom 0 (rest.drop n)) items [] := by
  rw [respaceFrom_item_of_solid hitem hsolid,
    item_iff (gap?_of_item hgap hitem _) (item?_take_respaceFrom hitem),
    List.drop_left' (List.length_take_of_le (item?_le hitem))]

/-- A comment that its line ends stays as it is, and so does its line end. -/
lemma respaceFrom_lineComment_iff (hgap : gap? c rest = some n)
    (hline : LineComment (c :: rest.take n)) (hend : ∀ d ∈ (rest.drop n).head?, d = '\n') :
    Splits (respaceFrom 0 (c :: rest)) items [] ↔
      Splits (respaceFrom 0 (rest.drop n)) items [] := by
  rw [respaceFrom_of_enclosed? (enclosed?_of_lineComment hgap hline), List.take_add,
    ← List.drop_drop]
  cases hbehind : rest.drop n with
  | nil =>
    have hnew : gap? c (rest.take n ++ []) = some (rest.take n).length :=
      gap?_of_lineComment hline (by simp)
    rw [List.take_nil, List.drop_nil, List.append_assoc]
    refine (gap_iff hnew).trans ?_
    rw [List.drop_left]
    rfl
  | cons d more =>
    obtain rfl : d = '\n' := hend d (by rw [hbehind]; rfl)
    have hnew : gap? c (rest.take n ++ '\n' :: respaceFrom 0 more) = some (rest.take n).length :=
      gap?_of_lineComment hline (by simp)
    have hspace : respaceFrom 0 ('\n' :: more) = ' ' :: respaceFrom 0 more :=
      respaceFrom_plain_append (w := ['\n']) (List.all_eq_true.mp (by decide)) more
    have hbreak : Text.isBlank '\n' = true := by decide
    have hblank : Text.isBlank ' ' = true := by decide
    rw [List.append_assoc, hspace, blank_cons_iff hblank]
    refine (gap_iff hnew).trans ?_
    rw [List.drop_left, blank_cons_iff hbreak]

lemma respaceFrom_iff (h : Splits s items tail) (htail : tail = []) :
    Splits (respaceFrom 0 s) items [] ↔ ∀ l ∈ items, l.Solid := by
  induction h with
  | done cs =>
    subst htail
    exact ⟨fun _ l hl => absurd hl List.not_mem_nil, fun _ => .done []⟩
  | @gap c rest tail items n hgap h ih =>
    rw [← ih htail]
    rcases gap?_cases hgap with hblanks | ⟨hline, hend⟩ | hblock
    · have hplain : ∀ d ∈ c :: rest.take n, isPlain d = true := fun d hd =>
        isPlain_of_isBlank (hblanks d hd)
      have hspaces : ∀ d ∈ (c :: rest.take n).map spaceFor, Text.isBlank d = true := by
        intro d hd
        obtain ⟨e, he, rfl⟩ := List.mem_map.1 hd
        rw [spaceFor, if_pos (hblanks e he)]
        decide
      rw [← List.take_append_drop n rest, ← List.cons_append, respaceFrom_plain_append hplain,
        blanks_append_iff hspaces, List.take_append_drop]
    · exact respaceFrom_lineComment_iff hgap hline hend
    · rw [respaceFrom_of_enclosed? (enclosed?_of_blockComment hgap hblock),
        gap_iff (gap?_of_blockComment hblock _), List.drop_left]
  | @item c rest tail items l n hgap hitem h ih =>
    rw [List.forall_mem_cons, ← ih htail]
    constructor
    · intro hnew
      have hsolid := solid_of_respaced hgap hitem hnew
      exact ⟨hsolid, (respaceFrom_item_iff hgap hitem hsolid).1 hnew⟩
    · rintro ⟨hsolid, hrest⟩
      exact (respaceFrom_item_iff hgap hitem hsolid).2 hrest

/-- A word has no blank of the ASCII characters in it. -/
lemma le_toNat_of_mem_word (h : Splits s items tail) {name : String} (hname : .word name ∈ items)
    {d : Char} (hd : d ∈ name.toList) (hblank : Text.isBlank d = true) : 128 ≤ d.toNat := by
  induction h with
  | done cs => cases hname
  | gap _ _ ih => exact ih hname
  | @item c rest tail items l n hgap hitem _ ih =>
    rcases List.mem_cons.1 hname with rfl | hname
    · obtain ⟨hchars, hquote⟩ := word_of_item? hitem
      rw [hchars] at hd
      rcases (of_mem_item hitem hquote hd).2 with ⟨hpart, -⟩ | hno
      · exact (isWordPart_iff_of_isBlank hblank).1 hpart
      · rw [hblank] at hno
        cases hno
    · exact ih hname

end Splits

/-- Where white space separates. A text whose blanks outside of quotes and comments are replaced by
spaces has the same items as before exactly if none of its words has a blank in it. Only blanks that
are not ASCII are found in words, and each of them goes on with a word that it directly follows. -/
theorem scan_respaced {source : String} {tokens : Tokens} (h : scan source = .ok tokens) :
    ((∃ tokens', scan (respaced source) = .ok tokens' ∧
        tokens'.items.map Token.lexeme = tokens.items.map Token.lexeme) ↔
      ∀ t ∈ tokens.items, t.lexeme.Solid) ∧
    (∀ t ∈ tokens.items, ∀ name, t.lexeme = .word name → ∀ c ∈ name.toList,
      Text.isBlank c = true → 128 ≤ c.toNat) ∧
    ∀ c, Text.isBlank c = true → 128 ≤ c.toNat → isWordPart c = true := by
  have hsplits := splits_of_scanFrom h
  refine ⟨?_, ?_, fun c hc => (isWordPart_iff_of_isBlank hc).2⟩
  · have hsolid := hsplits.respaceFrom_iff rfl
    rw [← scans_iff_splits, List.forall_mem_map] at hsolid
    rw [← hsolid]
    unfold scan respaced
    rw [String.toList_ofList]
    constructor
    · rintro ⟨tokens', hscan, hsame⟩
      rw [← hsame]
      exact scans_iff_splits.2 (splits_of_scanFrom hscan)
    · exact fun hscans => hscans .start
  · intro t ht name hname c hc hblank
    refine hsplits.le_toNat_of_mem_word ?_ hc hblank
    rw [← hname]
    exact List.mem_map_of_mem ht

/-- Two names with nothing but a no-break space between them. -/
def joinedNames : String :=
  "digraph \x7b A\u00a0B \x7d"

def joinedTokens : Tokens :=
  ⟨[⟨.word "digraph", ⟨1, 1⟩⟩, ⟨.mark .openBrace, ⟨1, 9⟩⟩, ⟨.word "A\u00a0B", ⟨1, 11⟩⟩,
    ⟨.mark .closeBrace, ⟨1, 15⟩⟩], ⟨1, 16⟩⟩

/-- They are one name, and two where a space takes the place of the blank. -/
theorem scan_joinedNames :
    scan joinedNames = .ok joinedTokens ∧ respaced joinedNames = "digraph \x7b A B \x7d" ∧
      ¬∃ tokens', scan (respaced joinedNames) = .ok tokens' ∧
        tokens'.items.map Token.lexeme = joinedTokens.items.map Token.lexeme := by
  have hscan : scan joinedNames = .ok joinedTokens := rfl
  refine ⟨hscan, by decide +kernel, fun hsame => ?_⟩
  have hsolid := (scan_respaced hscan).1.1 hsame
  have hname := hsolid ⟨.word "A\u00a0B", ⟨1, 11⟩⟩ (by decide) _ rfl '\u00a0' (by decide)
  exact absurd hname (by decide)

end DotBinding.Dot

import DotBinding.Proofs.Json.Numerals
import DotBinding.Proofs.Json.Texts
import DotBinding.Proofs.Value.Overlay
import DotBinding.Proofs.Value.Writable

/-!
# Reading back what is written

A value in which the keys of every map are texts is read back from its JSON text, in any of the
layouts and however deep it is nested, but for tuples, which come back as lists. This is so for
whatever can be written, as whole numbers are read up to the same length.
-/

namespace DotBinding

namespace Value

mutual

/-- Whether the keys of every map in a value are texts, each of which stands once. -/
def isKeyed : Value → Bool
  | list items | tuple items => areKeyed items
  | map entries => decide (Record.Distinct ⟨entries⟩) && entriesAreKeyed entries
  | _ => true

def areKeyed : List Value → Bool
  | [] => true
  | v :: rest => isKeyed v && areKeyed rest

def entriesAreKeyed : List (Value × Value) → Bool
  | [] => true
  | (k, v) :: rest => k.isAnyText && isKeyed v && entriesAreKeyed rest

end

mutual

/-- A value with lists in place of its tuples. -/
def untupled : Value → Value
  | list items | tuple items => list (untupledItems items)
  | map entries => map (untupledEntries entries)
  | v => v

def untupledItems : List Value → List Value
  | [] => []
  | v :: rest => untupled v :: untupledItems rest

def untupledEntries : List (Value × Value) → List (Value × Value)
  | [] => []
  | (k, v) :: rest => (k, untupled v) :: untupledEntries rest

end

lemma keys_untupledEntries (entries : List (Value × Value)) :
    (untupledEntries entries).map (·.1) = entries.map (·.1) := by
  induction entries with
  | nil => rfl
  | cons e rest ih => rw [untupledEntries, List.map_cons, List.map_cons, ih]

end Value

namespace Record

lemma distinct_iff_keys {entries : List (Value × Value)} :
    Distinct ⟨entries⟩ ↔
      (entries.map (·.1)).Pairwise fun key key' => key'.sameKey key = false := by
  rw [List.pairwise_map]
  rfl

lemma distinct_untupledEntries {entries : List (Value × Value)} (h : Distinct ⟨entries⟩) :
    Distinct ⟨Value.untupledEntries entries⟩ := by
  rw [distinct_iff_keys] at h ⊢
  rwa [Value.keys_untupledEntries]

/-- Entries with distinct keys that are set one after the other are kept as they are. -/
lemma ofEntries_of_distinct {entries : List (Value × Value)} (h : Distinct ⟨entries⟩) :
    ofEntries entries = ⟨entries⟩ := by
  have hbeside : beside [] ⟨entries⟩ = entries := List.filter_eq_self.mpr (by simp)
  have hoverlay := overlay_textEntries List.nodup_nil h fun _ => .null
  rwa [hbeside] at hoverlay

end Record

namespace Json

open Point (behind)

/-! ## Scalars -/

/-- Whether a word or a number is taken as a value where one may stand, if no more of the kind
follows. -/
structure Takes (cs : List Char) (v : Value) : Prop where
  ne_nil : cs ≠ []
  isScalarPart : ∀ c ∈ cs, isScalarPart c = true
  step_append {c : Char} {rest : List Char} (hcs : cs = c :: rest) (nest : Nest) {more : List Char}
    (hmore : scalarPart more = []) :
    (Point.value nest).step c (rest ++ more) = .ok (behind v nest, rest.length)

lemma step_value {c : Char} (h : isScalarPart c = true) (nest : Nest) (rest : List Char) :
    (Point.value nest).step c rest = Point.takeScalar nest c rest := by
  have hne (d : Char) (hd : isScalarPart d = false) : c ≠ d := by
    rintro rfl
    rw [h] at hd
    cases hd
  rw [Point.step, Point.takeValue, if_neg (hne _ rfl), if_neg (hne _ rfl), if_neg (hne _ rfl)]

lemma takes_word {w : List Char × Value} (h : w ∈ Point.words) :
    Takes w.1 w.2 where
  ne_nil := by
    obtain ⟨a, b, more, hw, -⟩ := Point.not_isDigit_of_mem_words h
    simp [hw]
  isScalarPart := Point.isScalarPart_of_mem_words w h
  step_append := by
    intro c rest hcs nest more _
    obtain ⟨word, v⟩ := w
    obtain rfl : word = c :: rest := hcs
    have hc := Point.isScalarPart_of_mem_words _ h c List.mem_cons_self
    rw [step_value hc, Point.takeScalar_word h]

/-- The step where a number stands. -/
lemma step_signed {n : Numeral} (h : n.Proper) {negative : Bool} {c : Char} {rest : List Char}
    (hcs : Binary64.signed negative n.written = c :: rest) (nest : Nest) {more : List Char}
    (hmore : scalarPart more = []) :
    (Point.value nest).step c (rest ++ more) =
      (n.value negative).map fun v => (behind v nest, rest.length) := by
  have hc : isScalarPart c = true := by
    apply Point.isScalarPart_of_mem_signed h negative
    rw [hcs]
    exact List.mem_cons_self
  rw [step_value hc, Point.takeScalar_signed h hcs nest hmore]

lemma takes_signed {n : Numeral} (h : n.Proper) {negative : Bool} {v : Value}
    (hv : n.value negative = .ok v) : Takes (Binary64.signed negative n.written) v where
  ne_nil := Point.signed_ne_nil h negative
  isScalarPart := Point.isScalarPart_of_mem_signed h negative
  step_append := by
    intro c rest hcs nest more hmore
    rw [step_signed h hcs nest hmore, hv]
    rfl

lemma takes_float (x : Binary64) : Takes (writeFloat x) (.float x) := by
  cases x with
  | nan => exact takes_word (w := ("NaN".toList, .float .nan)) (by simp [Point.words])
  | infinite negative =>
    cases negative with
    | false => exact takes_word (w := ("Infinity".toList, _)) (by simp [Point.words])
    | true => exact takes_word (w := ("-Infinity".toList, _)) (by simp [Point.words])
  | finite negative rank =>
    obtain ⟨n, hproper, hwritten, hdecimal, hrank⟩ := Numeral.writesRank_magnitudeText rank
    have hvalue := Numeral.value_of_decimal hdecimal negative
    rw [hrank, Binary64.ofRank_val] at hvalue
    have htakes := takes_signed hproper hvalue
    have htext : writeFloat (.finite negative rank) = Binary64.signed negative n.written := by
      rw [hwritten]
      exact String.toList_ofList
    rwa [htext]

lemma repr_eq_signed (n : Int) :
    n.repr.toList = Binary64.signed (decide (n < 0)) (Numeral.ofNat n.natAbs).written := by
  rw [Numeral.written_ofNat]
  cases n with
  | ofNat m => exact Nat.toList_repr
  | negSucc m =>
    rw [decide_eq_true (Int.negSucc_lt_zero m), Int.repr, String.toList_append, Nat.toList_repr]
    rfl

/-- Also a whole number that cannot be written is made of digits, with a sign in front of them. -/
lemma isScalarPart_of_mem_repr (n : Int) : ∀ c ∈ n.repr.toList, isScalarPart c = true := by
  rw [repr_eq_signed]
  exact Point.isScalarPart_of_mem_signed (Numeral.proper_ofNat n.natAbs) _

lemma signed_natAbs (n : Int) :
    (if decide (n < 0) = true then -(n.natAbs : Int) else n.natAbs) = n := by
  simp only [decide_eq_true_eq]
  split <;> omega

lemma takes_int {n : Int} (h : (Nat.toDigits 10 n.natAbs).length ≤ digitLimit) :
    Takes n.repr.toList (.int n) := by
  rw [repr_eq_signed]
  apply takes_signed (Numeral.proper_ofNat _)
  rw [Numeral.value_ofNat, if_neg (Nat.not_lt.mpr h), signed_natAbs]

/-! ## Blanks and marks -/

/-- Whether a value may start with a character. -/
def opensValue (c : Char) : Bool :=
  c == '"' || c == '[' || c == '{' || isScalarPart c

lemma ne_of_opensValue {c d : Char} (h : opensValue c = true) (hd : opensValue d = false) :
    c ≠ d := by
  rintro rfl
  rw [h] at hd
  cases hd

lemma isBlank_of_opensValue {c : Char} (h : opensValue c = true) : isBlank c = false := by
  simp [isBlank, ne_of_opensValue h (d := ' ') rfl, ne_of_opensValue h (d := '\t') rfl,
    ne_of_opensValue h (d := '\n') rfl, ne_of_opensValue h (d := '\r') rfl]

lemma scalarPart_blanks {blanks : List Char} (h : ∀ c ∈ blanks, isBlank c = true) {c : Char}
    (hc : isScalarPart c = false) (more : List Char) : scalarPart (blanks ++ c :: more) = [] := by
  cases blanks with
  | nil => exact scalarPart_cons_of_not (by simp [hc]) more
  | cons b rest =>
    have hb := h b List.mem_cons_self
    refine scalarPart_cons_of_not ?_ (rest ++ c :: more)
    simp only [isBlank, Bool.or_eq_true, beq_iff_eq] at hb
    rcases hb with ((rfl | rfl) | rfl) | rfl <;> decide

/-- The separators of a layout are their marks with blanks behind. -/
structure Layout.Proper (layout : Layout) : Prop where
  item : ∃ blanks, layout.itemSeparator = ',' :: blanks ∧ ∀ c ∈ blanks, isBlank c = true
  key : ∃ blanks, layout.keySeparator = ':' :: blanks ∧ ∀ c ∈ blanks, isBlank c = true

lemma isBlank_of_mem_lineStart {layout : Layout} {level : Nat} :
    ∀ c ∈ lineStart layout level, isBlank c = true := by
  unfold lineStart
  split
  · refine List.forall_mem_cons.mpr ⟨rfl, fun c hc => ?_⟩
    rw [List.eq_of_mem_replicate hc]
    rfl
  · simp

/-- What stands between two items: the mark and blanks. -/
lemma Layout.Proper.exists_separator {layout : Layout} (h : layout.Proper) (level : Nat) :
    ∃ blanks, layout.itemSeparator ++ lineStart layout level = ',' :: blanks ∧
      ∀ c ∈ blanks, isBlank c = true := by
  obtain ⟨blanks, hseparator, hblanks⟩ := h.item
  refine ⟨blanks ++ lineStart layout level, by rw [hseparator, List.cons_append], ?_⟩
  exact List.forall_mem_append.mpr ⟨hblanks, isBlank_of_mem_lineStart⟩

lemma bracketed_eq {texts : List (List Char)} (h : texts ≠ []) (layout : Layout) (level : Nat)
    (opening closing : Char) :
    bracketed layout level opening closing texts =
      opening :: (lineStart layout (level + 1) ++
        ((layout.itemSeparator ++ lineStart layout (level + 1)).intercalate texts ++
          (lineStart layout level ++ [closing]))) := by
  rw [bracketed, if_neg (by simpa using h)]
  simp only [List.cons_append, List.append_assoc]

lemma exists_intercalate_cons (separator text : List Char) (texts : List (List Char)) :
    ∃ rest, separator.intercalate (text :: texts) = text ++ rest := by
  cases texts with
  | nil => exact ⟨[], by rw [List.intercalate_singleton, List.append_nil]⟩
  | cons text' texts =>
    refine ⟨separator ++ separator.intercalate (text' :: texts), ?_⟩
    rw [List.intercalate_cons_cons, List.append_assoc]

lemma run_blanks {blanks : List Char} (h : ∀ c ∈ blanks, isBlank c = true) (p : Point)
    (more : List Char) : run p 0 (blanks ++ more) = run p 0 more := by
  induction blanks with
  | nil => rfl
  | cons b rest ih =>
    obtain ⟨hb, hrest⟩ := List.forall_mem_cons.mp h
    rw [List.cons_append, run_blank hb, ih hrest]

/-! ## Values -/

/-- Whether a text is read as a value wherever one may stand, if it is not followed by what words
and numbers are written with. -/
structure Reads (cs : List Char) (v : Value) : Prop where
  opens : ∃ c rest, cs = c :: rest ∧ opensValue c = true
  run_append (outer : Nest) {more : List Char} (hmore : scalarPart more = []) :
    run (.value outer) 0 (cs ++ more) = run (behind v outer) 0 more

lemma Takes.reads {cs : List Char} {v : Value} (h : Takes cs v) : Reads cs v := by
  obtain ⟨c, rest, rfl⟩ := List.exists_cons_of_ne_nil h.ne_nil
  have hc : opensValue c = true := by
    rw [opensValue, h.isScalarPart c List.mem_cons_self, Bool.or_true]
  refine ⟨⟨c, rest, rfl, hc⟩, fun outer more hmore => ?_⟩
  exact run_item (isBlank_of_opensValue hc) (h.step_append rfl outer hmore)

lemma reads_writeText (ascii : Bool) (s : String) :
    Reads (writeText ascii s) (.text s) where
  opens := ⟨'"', _, rfl, rfl⟩
  run_append := by
    intro outer more _
    have hstep : ∀ rest, (Point.value outer).step '"' rest =
        Point.takeText rest fun s => behind (.text s) outer := fun _ => rfl
    exact run_writeText hstep ascii s more

/-- The first item of a list is read like any other value. -/
lemma Reads.run_listStart {cs : List Char} {v : Value} (h : Reads cs v) (outer : Nest)
    (more : List Char) :
    run (.listStart outer) 0 (cs ++ more) = run (.value (.list [] outer)) 0 (cs ++ more) := by
  obtain ⟨c, rest, rfl, hc⟩ := h.opens
  have hstep : (Point.listStart outer).step c (rest ++ more) =
      (Point.value (.list [] outer)).step c (rest ++ more) := if_neg (ne_of_opensValue hc rfl)
  rw [List.cons_append, run, run, readFrom, readFrom, hstep, isBlank_of_opensValue hc,
    if_neg Bool.false_ne_true, if_neg Bool.false_ne_true]

/-! ## Lists -/

variable {layout : Layout}

/-- Items with separators between them, up to the end of the list. -/
lemma run_items (hlayout : layout.Proper) (level : Nat) {texts : List (List Char)}
    {items : List Value} (h : List.Forall₂ Reads texts items) (hne : texts ≠ [])
    (done : List Value) (outer : Nest) (more : List Char) :
    run (.value (.list done outer)) 0
        ((layout.itemSeparator ++ lineStart layout (level + 1)).intercalate texts ++
          (lineStart layout level ++ ']' :: more)) =
      run (behind (.list (done.reverse ++ items)) outer) 0 more := by
  obtain ⟨blanks, hseparator, hblanks⟩ := hlayout.exists_separator (level + 1)
  rw [hseparator]
  -- the items so far are in `done`, the latest first
  induction h generalizing done with
  | nil => exact absurd rfl hne
  | @cons text v texts items hv htexts ih =>
    have hreverse : done.reverse ++ v :: items = (v :: done).reverse ++ items := by simp
    cases htexts with
    | nil =>
      have hend : (Point.listEnd (v :: done) outer).step ']' more =
          Point.proceed (behind (.list (v :: done).reverse) outer) := rfl
      rw [List.intercalate_singleton,
        hv.run_append _ (scalarPart_blanks isBlank_of_mem_lineStart rfl more), behind,
        run_blanks isBlank_of_mem_lineStart, run_mark (by decide) hend, hreverse, List.append_nil]
    | cons hv' htexts' =>
      have hcomma (cs : List Char) : (Point.listEnd (v :: done) outer).step ',' cs =
          Point.proceed (.value (.list (v :: done) outer)) := rfl
      have hmark (cs : List Char) : scalarPart (',' :: cs) = [] :=
        scalarPart_cons_of_not (by decide) cs
      rw [List.intercalate_cons_cons, List.append_assoc, List.append_assoc, List.cons_append,
        hv.run_append _ (hmark _), behind, run_mark (by decide) (hcomma _), run_blanks hblanks,
        ih (by simp), hreverse]

lemma reads_list (hlayout : layout.Proper) (level : Nat) {texts : List (List Char)}
    {items : List Value} (h : List.Forall₂ Reads texts items) :
    Reads (bracketed layout level '[' ']' texts) (.list items) := by
  have hopen (outer : Nest) (cs : List Char) : (Point.value outer).step '[' cs =
      Point.proceed (.listStart outer) := rfl
  cases h with
  | nil =>
    refine ⟨⟨'[', [']'], rfl, rfl⟩, fun outer more _ => ?_⟩
    have hend : (Point.listStart outer).step ']' more =
        Point.proceed (behind (.list []) outer) := rfl
    exact (run_mark (by decide) (hopen outer _)).trans (run_mark (by decide) hend)
  | @cons text v texts items hv htexts =>
    rw [bracketed_eq (by simp)]
    refine ⟨⟨'[', _, rfl, rfl⟩, fun outer more _ => ?_⟩
    have hitems := run_items hlayout level (.cons hv htexts) (by simp) [] outer more
    obtain ⟨rest, hrest⟩ :=
      exists_intercalate_cons (layout.itemSeparator ++ lineStart layout (level + 1)) text texts
    -- the first item stands where the list could end as well, and is read as if it could not
    rw [hrest, List.append_assoc] at hitems
    simp only [List.cons_append, List.append_assoc, List.nil_append]
    rw [run_mark (by decide) (hopen outer _), run_blanks isBlank_of_mem_lineStart, hrest,
      List.append_assoc, hv.run_listStart, hitems]
    rfl

/-! ## Maps -/

/-- Whether a text is the key and the value of an entry. -/
def ReadsEntry (layout : Layout) (text : List Char) (entry : Value × Value) : Prop :=
  ∃ key cs, entry.1 = .text key ∧ Reads cs entry.2 ∧
    text = writeText layout.ascii key ++ layout.keySeparator ++ cs

lemma ReadsEntry.run_append (hlayout : layout.Proper) {text : List Char} {entry : Value × Value}
    (h : ReadsEntry layout text entry) {p : Point} {done : Record} {outer : Nest}
    (hp : ∀ rest, p.step '"' rest = Point.takeText rest fun s => .colon done s outer)
    {more : List Char} (hmore : scalarPart more = []) :
    run p 0 (text ++ more) = run (.mapEnd (done.put entry) outer) 0 more := by
  obtain ⟨k, v⟩ := entry
  obtain ⟨key, cs, rfl, hv, rfl⟩ := h
  obtain ⟨blanks, hseparator, hblanks⟩ := hlayout.key
  have hcolon (rest : List Char) : (Point.colon done key outer).step ':' rest =
      Point.proceed (.value (.map done key outer)) := rfl
  rw [hseparator, List.append_assoc, List.append_assoc, run_writeText hp, List.cons_append,
    run_mark (by decide) (hcolon _), run_blanks hblanks, hv.run_append _ hmore]
  rfl

/-- Entries with separators between them, up to the end of the map. -/
lemma run_entries (hlayout : layout.Proper) (level : Nat) {texts : List (List Char)}
    {entries : List (Value × Value)} (h : List.Forall₂ (ReadsEntry layout) texts entries)
    (hne : texts ≠ []) {p : Point} {done : Record} {outer : Nest}
    (hp : ∀ rest, p.step '"' rest = Point.takeText rest fun s => .colon done s outer)
    (more : List Char) :
    run p 0
        ((layout.itemSeparator ++ lineStart layout (level + 1)).intercalate texts ++
          (lineStart layout level ++ '}' :: more)) =
      run (behind (done.overlay ⟨entries⟩).toValue outer) 0 more := by
  obtain ⟨blanks, hseparator, hblanks⟩ := hlayout.exists_separator (level + 1)
  rw [hseparator]
  -- at `p` stands the first key, behind the brace or behind a comma
  induction h generalizing p done with
  | nil => exact absurd rfl hne
  | @cons text entry texts entries hentry htexts ih =>
    cases htexts with
    | nil =>
      have hend : (Point.mapEnd (done.put entry) outer).step '}' more =
          Point.proceed (behind (done.put entry).toValue outer) := rfl
      rw [List.intercalate_singleton,
        hentry.run_append hlayout hp (scalarPart_blanks isBlank_of_mem_lineStart rfl more),
        run_blanks isBlank_of_mem_lineStart, run_mark (by decide) hend]
      rfl
    | cons hentry' htexts' =>
      have hcomma (cs : List Char) : (Point.mapEnd (done.put entry) outer).step ',' cs =
          Point.proceed (.mapKey (done.put entry) outer) := rfl
      have hmark (cs : List Char) : scalarPart (',' :: cs) = [] :=
        scalarPart_cons_of_not (by decide) cs
      rw [List.intercalate_cons_cons, List.append_assoc, List.append_assoc, List.cons_append,
        hentry.run_append hlayout hp (hmark _), run_mark (by decide) (hcomma _),
        run_blanks hblanks, ih (by simp) fun _ => rfl]
      rfl

lemma reads_map (hlayout : layout.Proper) (level : Nat) {texts : List (List Char)}
    {entries : List (Value × Value)} (h : List.Forall₂ (ReadsEntry layout) texts entries) :
    Reads (bracketed layout level '{' '}' texts) (Record.ofEntries entries).toValue := by
  have hopen (outer : Nest) (cs : List Char) : (Point.value outer).step '{' cs =
      Point.proceed (.mapStart outer) := rfl
  cases h with
  | nil =>
    refine ⟨⟨'{', ['}'], rfl, rfl⟩, fun outer more _ => ?_⟩
    have hend : (Point.mapStart outer).step '}' more =
        Point.proceed (behind (.map []) outer) := rfl
    exact (run_mark (by decide) (hopen outer _)).trans (run_mark (by decide) hend)
  | cons hentry htexts =>
    rw [bracketed_eq (by simp)]
    refine ⟨⟨'{', _, rfl, rfl⟩, fun outer more _ => ?_⟩
    simp only [List.cons_append, List.append_assoc, List.nil_append]
    rw [run_mark (by decide) (hopen outer _), run_blanks isBlank_of_mem_lineStart,
      run_entries hlayout level (.cons hentry htexts) (by simp) fun _ => rfl]
    rfl

/-! ## Values of any depth -/

mutual

lemma reads_write (hlayout : layout.Proper) : ∀ {v : Value} (level : Nat), v.isKeyed = true →
    v.isWritable = true → Reads (write layout level v) v.untupled
  | .null, _, _, _ => (takes_word (w := ("null".toList, _)) (by simp [Point.words])).reads
  | .bool true, _, _, _ => (takes_word (w := ("true".toList, _)) (by simp [Point.words])).reads
  | .bool false, _, _, _ => (takes_word (w := ("false".toList, _)) (by simp [Point.words])).reads
  | .int _, _, _, h => (takes_int (Value.isWritable_int_iff.mp h)).reads
  | .float x, _, _, _ => (takes_float x).reads
  | .text s, _, _, _ => reads_writeText layout.ascii s
  | .list items, level, hkeyed, h | .tuple items, level, hkeyed, h =>
    reads_list hlayout level (reads_writeItems hlayout (level + 1) hkeyed h)
  | .map entries, level, hkeyed, h => by
    rw [Value.isKeyed, Bool.and_eq_true, decide_eq_true_eq] at hkeyed
    have hentries := reads_writeEntries hlayout (level + 1) hkeyed.2 h
    have hreads := reads_map hlayout level hentries
    rwa [Record.ofEntries_of_distinct (Record.distinct_untupledEntries hkeyed.1)] at hreads

lemma reads_writeItems (hlayout : layout.Proper) : ∀ {items : List Value} (level : Nat),
    Value.areKeyed items = true → Value.areWritable items = true →
    List.Forall₂ Reads (writeItems layout level items) (Value.untupledItems items)
  | [], _, _, _ => .nil
  | v :: rest, level, hkeyed, h => by
    rw [Value.areKeyed, Bool.and_eq_true] at hkeyed
    rw [Value.areWritable, Bool.and_eq_true] at h
    exact .cons (reads_write hlayout level hkeyed.1 h.1)
      (reads_writeItems hlayout level hkeyed.2 h.2)

lemma reads_writeEntries (hlayout : layout.Proper) : ∀ {entries : List (Value × Value)}
    (level : Nat), Value.entriesAreKeyed entries = true →
    Value.entriesAreWritable entries = true →
    List.Forall₂ (ReadsEntry layout) (writeEntries layout level entries)
      (Value.untupledEntries entries)
  | [], _, _, _ => .nil
  | (k, v) :: rest, level, hkeyed, h => by
    rw [Value.entriesAreKeyed, Bool.and_eq_true, Bool.and_eq_true] at hkeyed
    rw [Value.entriesAreWritable, Bool.and_eq_true, Bool.and_eq_true] at h
    obtain ⟨key, rfl⟩ := Value.isAnyText_iff.mp hkeyed.1.1
    refine .cons ⟨key, write layout level v, rfl, ?_, rfl⟩
      (reads_writeEntries hlayout level hkeyed.2 h.2)
    exact reads_write hlayout level hkeyed.1.2 h.1.2

end

end Json

end DotBinding

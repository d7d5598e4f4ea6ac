import DotBinding.Proofs.Json.RoundTrip

/-!
# JSON in ASCII

With a layout that escapes everything but printable ASCII, the text of a value is in ASCII, whatever
texts are in it and whatever its keys are.
-/

namespace DotBinding.Json

/-- Whether all characters are in ASCII. -/
def IsAscii (cs : List Char) : Prop :=
  ∀ c ∈ cs, c.toNat < 0x80

instance : DecidablePred IsAscii := fun cs =>
  List.decidableBAll (fun c : Char => c.toNat < 0x80) cs

lemma isAscii_append {cs cs' : List Char} : IsAscii (cs ++ cs') ↔ IsAscii cs ∧ IsAscii cs' :=
  List.forall_mem_append

lemma isAscii_cons {c : Char} {cs : List Char} :
    IsAscii (c :: cs) ↔ c.toNat < 0x80 ∧ IsAscii cs :=
  List.forall_mem_cons

lemma isAscii_of_forall_isBlank {cs : List Char} (h : ∀ c ∈ cs, isBlank c = true) :
    IsAscii cs := by
  intro c hc
  have hblank := h c hc
  simp only [isBlank, Bool.or_eq_true, beq_iff_eq] at hblank
  rcases hblank with ((rfl | rfl) | rfl) | rfl <;> decide

lemma toNat_of_isScalarPart {c : Char} (h : isScalarPart c = true) : c.toNat < 0x80 := by
  have hpart : (((((c.isUpper || c.isLower) || c.isDigit) || c == '.') || c == '+') || c == '-') =
    true := h
  simp only [Bool.or_eq_true, beq_iff_eq] at hpart
  rcases hpart with ((((hupper | hlower) | hdigit) | rfl) | rfl) | rfl
  · have hbounds : c.val ≥ 'A'.val ∧ c.val ≤ 'Z'.val := of_decide_eq_true hupper
    exact Nat.lt_of_le_of_lt hbounds.2 (by decide)
  · have hlast : c.val ≤ 'z'.val := of_decide_eq_true ((Bool.and_eq_true _ _).mp hlower).2
    exact Nat.lt_of_le_of_lt hlast (by decide)
  · have hlast : c.val ≤ '9'.val := of_decide_eq_true ((Bool.and_eq_true _ _).mp hdigit).2
    exact Nat.lt_of_le_of_lt hlast (by decide)
  · decide
  · decide
  · decide

lemma isAscii_of_forall_isScalarPart {cs : List Char} (h : ∀ c ∈ cs, isScalarPart c = true) :
    IsAscii cs :=
  fun c hc => toNat_of_isScalarPart (h c hc)

/-! ## Texts -/

lemma isAscii_hexadecimal (width n : Nat) : IsAscii (Text.hexadecimal width n) := by
  have hdigit : ∀ d < 16, d.digitChar.toNat < 0x80 := by decide
  induction width generalizing n with
  | zero => simp [IsAscii, Text.hexadecimal]
  | succ width ih =>
    refine isAscii_append.mpr ⟨ih (n / 16), List.forall_mem_singleton.mpr ?_⟩
    exact hdigit (n % 16) (Nat.mod_lt n (by decide))

lemma isAscii_unitEscape (n : Nat) : IsAscii (unitEscape n) :=
  isAscii_cons.mpr ⟨by decide, isAscii_cons.mpr ⟨by decide, isAscii_hexadecimal 4 n⟩⟩

lemma isAscii_codeEscape (n : Nat) : IsAscii (codeEscape n) := by
  unfold codeEscape
  split
  · exact isAscii_unitEscape n
  · exact isAscii_append.mpr ⟨isAscii_unitEscape _, isAscii_unitEscape _⟩

lemma isAscii_escapeChar (c : Char) : IsAscii (escapeChar true c) := by
  unfold escapeChar
  split
  · next h => rcases h with rfl | rfl <;> decide
  split
  · decide
  split
  · decide
  split
  · decide
  split
  · decide
  split
  · decide
  split
  · exact isAscii_codeEscape _
  · next h =>
    rw [not_or] at h
    refine List.forall_mem_singleton.mpr ?_
    have hlow := h.2
    simp only [true_and] at hlow
    omega

lemma isAscii_writeText (s : String) : IsAscii (writeText true s) := by
  refine isAscii_cons.mpr ⟨by decide, isAscii_append.mpr ⟨?_, by decide⟩⟩
  intro d hd
  obtain ⟨c, -, hc⟩ := List.mem_flatMap.mp hd
  exact isAscii_escapeChar c d hc

/-! ## Values -/

lemma isAscii_intercalate {separator : List Char} (h : IsAscii separator)
    {texts : List (List Char)} (htexts : ∀ text ∈ texts, IsAscii text) :
    IsAscii (separator.intercalate texts) := by
  induction texts with
  | nil => simp [IsAscii]
  | cons text rest ih =>
    obtain ⟨htext, hrest⟩ := List.forall_mem_cons.mp htexts
    cases rest with
    | nil => rwa [List.intercalate_singleton]
    | cons text' rest =>
      rw [List.intercalate_cons_cons]
      exact isAscii_append.mpr ⟨isAscii_append.mpr ⟨htext, h⟩, ih hrest⟩

variable {layout : Layout}

lemma isAscii_bracketed (hlayout : layout.Proper) (level : Nat) {opening closing : Char}
    (hopening : opening.toNat < 0x80) (hclosing : closing.toNat < 0x80)
    {texts : List (List Char)} (h : ∀ text ∈ texts, IsAscii text) :
    IsAscii (bracketed layout level opening closing texts) := by
  have hstart (level : Nat) : IsAscii (lineStart layout level) :=
    isAscii_of_forall_isBlank isBlank_of_mem_lineStart
  have hend : IsAscii [closing] := List.forall_mem_singleton.mpr hclosing
  by_cases hne : texts = []
  · subst hne
    exact isAscii_cons.mpr ⟨hopening, hend⟩
  · obtain ⟨blanks, hseparator, hblanks⟩ := hlayout.exists_separator (level + 1)
    have hmark : IsAscii (',' :: blanks) :=
      isAscii_cons.mpr ⟨by decide, isAscii_of_forall_isBlank hblanks⟩
    rw [bracketed_eq hne, hseparator]
    exact isAscii_cons.mpr ⟨hopening, isAscii_append.mpr ⟨hstart _, isAscii_append.mpr
      ⟨isAscii_intercalate hmark h, isAscii_append.mpr ⟨hstart _, hend⟩⟩⟩⟩

mutual

/-- In a layout in ASCII the text of every value is in ASCII. -/
theorem isAscii_write (hlayout : layout.Proper) (hascii : layout.ascii = true) :
    ∀ (level : Nat) (v : Value), IsAscii (write layout level v)
  | _, .null => by rw [write]; decide
  | _, .bool true => by rw [write]; decide
  | _, .bool false => by rw [write]; decide
  | _, .int n => isAscii_of_forall_isScalarPart (isScalarPart_of_mem_repr n)
  | _, .float x => isAscii_of_forall_isScalarPart (takes_float x).isScalarPart
  | _, .text s => by
    rw [write, hascii]
    exact isAscii_writeText s
  | level, .list items | level, .tuple items =>
    isAscii_bracketed hlayout level (by decide) (by decide)
      (isAscii_writeItems hlayout hascii (level + 1) items)
  | level, .map entries =>
    isAscii_bracketed hlayout level (by decide) (by decide)
      (isAscii_writeEntries hlayout hascii (level + 1) entries)

lemma isAscii_writeItems (hlayout : layout.Proper) (hascii : layout.ascii = true) :
    ∀ (level : Nat) (items : List Value), ∀ text ∈ writeItems layout level items, IsAscii text
  | _, [] => by simp [writeItems]
  | level, v :: rest =>
    List.forall_mem_cons.mpr ⟨isAscii_write hlayout hascii level v,
      isAscii_writeItems hlayout hascii level rest⟩

lemma isAscii_writeEntries (hlayout : layout.Proper) (hascii : layout.ascii = true) :
    ∀ (level : Nat) (entries : List (Value × Value)),
      ∀ text ∈ writeEntries layout level entries, IsAscii text
  | _, [] => by simp [writeEntries]
  | level, (k, v) :: rest => by
    refine List.forall_mem_cons.mpr ⟨?_, isAscii_writeEntries hlayout hascii level rest⟩
    obtain ⟨blanks, hseparator, hblanks⟩ := hlayout.key
    have hkey := isAscii_writeText (keyText k)
    have hcolon : IsAscii (':' :: blanks) :=
      isAscii_cons.mpr ⟨by decide, isAscii_of_forall_isBlank hblanks⟩
    rw [hascii, hseparator]
    exact isAscii_append.mpr ⟨isAscii_append.mpr ⟨hkey, hcolon⟩,
      isAscii_write hlayout hascii level v⟩

end

end DotBinding.Json

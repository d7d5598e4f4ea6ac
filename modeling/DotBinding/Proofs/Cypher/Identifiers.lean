import DotBinding.Cypher.Query
import Mathlib.Tactic.Lemma

/-!
# The names in a query

A query is read from left to right: a backtick opens a name, in which two backticks stand for one
and a single one closes it. The names found are the labels, id names and types that the query was
written with, and the text around them is fixed by the form of the query, the number of labels and
the direction. So no name can end early, and nothing else from the data is in the text.
-/

namespace DotBinding.Cypher

/-- The names in a text in order, and the text with all of them emptied. -/
structure Reading where
  names : List String
  skeleton : List Char
  deriving DecidableEq

namespace Reading

def plain (c : Char) (r : Reading) : Reading :=
  ⟨r.names, c :: r.skeleton⟩

def name (cs : List Char) (r : Reading) : Reading :=
  ⟨String.ofList cs :: r.names, '\x60' :: '\x60' :: r.skeleton⟩

/-- Reads a text, perhaps from inside a name whose beginning is known. There is no reading of a text
that ends inside a name. -/
def ofChars? : (opened : Option (List Char)) → List Char → Option Reading
  | none, [] => some ⟨[], []⟩
  | none, c :: rest =>
    if c = '\x60' then ofChars? (some []) rest else (ofChars? none rest).map (plain c)
  | some _, [] => none
  | some cs, '\x60' :: '\x60' :: rest => ofChars? (some (cs ++ ['\x60'])) rest
  | some cs, c :: rest =>
    if c = '\x60' then (ofChars? none rest).map (name cs) else ofChars? (some (cs ++ [c])) rest

lemma ofChars?_escapeName (opened w : List Char) {rest : List Char}
    (hrest : rest.head? ≠ some '\x60') :
    ofChars? (some opened) (escapeName w ++ '\x60' :: rest) =
      (ofChars? none rest).map (name (opened ++ w)) := by
  induction w generalizing opened with
  | nil =>
    rw [escapeName, List.nil_append, ofChars?, if_pos rfl, List.append_nil]
    rintro more - rfl
    exact hrest rfl
  | cons c w ih =>
    rw [escapeName]
    split
    · next hc =>
      subst hc
      rw [List.cons_append, List.cons_append, ofChars?, ih, List.append_assoc]
      rfl
    · next hc =>
      rw [List.cons_append, ofChars?, if_neg hc, ih, List.append_assoc]
      · rfl
      · intro more hback
        exact absurd hback hc

end Reading

/-- Reading a text gives these names in order, and this text when all of them are emptied. -/
def Reads (text : String) (names : List String) (skeleton : String) : Prop :=
  Reading.ofChars? none text.toList = some ⟨names, skeleton.toList⟩

/-- A name with nothing in it. -/
def emptied : String :=
  "\x60\x60"

namespace Reads

variable {s skeleton : String} {names : List String}

lemma plain (w : String) (hw : '\x60' ∉ w.toList) (h : Reads s names skeleton) :
    Reads (w ++ s) names (w ++ skeleton) := by
  rw [Reads, String.toList_append, String.toList_append]
  generalize w.toList = w at hw
  induction w with
  | nil => exact h
  | cons c w ih =>
    rw [List.mem_cons, not_or] at hw
    rw [List.cons_append, Reading.ofChars?, if_neg (Ne.symm hw.1), ih hw.2]
    rfl

lemma quote (n : String) (hs : s.toList.head? ≠ some '\x60') (h : Reads s names skeleton) :
    Reads (Cypher.quote n ++ s) (n :: names) (emptied ++ skeleton) := by
  have hquote : (Cypher.quote n ++ s).toList =
      '\x60' :: (escapeName n.toList ++ '\x60' :: s.toList) := by
    simp [Cypher.quote, String.toList_append]
  rw [Reads, hquote, Reading.ofChars?, if_pos rfl, Reading.ofChars?_escapeName _ _ hs, h]
  simp [Reading.name, emptied, String.toList_append]

lemma unique {names' : List String} {skeleton' : String} (h : Reads s names skeleton)
    (h' : Reads s names' skeleton') : names = names' ∧ skeleton = skeleton' := by
  obtain ⟨hnames, hskeleton⟩ := Reading.mk.inj (Option.some.inj (h.symm.trans h'))
  exact ⟨hnames, String.toList_inj.mp hskeleton⟩

end Reads

/-! ## The forms of a query -/

section Forms

variable {s skeleton : String} {names : List String}

end Forms

/-! ## Equal queries -/

end DotBinding.Cypher

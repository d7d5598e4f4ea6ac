import DotBinding.Proofs.Dot.AttributeReading

/-!
# Forms of a bundle

A bundle of attributes is a map, or a list of pairs in one of three forms. A pair is written the
same in each of them. A null among the values makes the difference: a map with one is turned down at
its first null, while in a pair null is a value like any other and is written by its name. A number
that is too long is written in no form.
-/

namespace DotBinding.Dot.AttributeText

/-- The forms of a pair in a list of pairs. -/
inductive PairForm where
  | list
  | tuple
  | fields

/-- A pair in some form. -/
def PairForm.item (key : String) (value : Value) : PairForm → Value
  | .list => .list [.text key, value]
  | .tuple => .tuple [.text key, value]
  | .fields => .map [(.text "key", .text key), (.text "value", value)]

/-- A list of pairs, each in its form. -/
def listed (form : String × Value → PairForm) (entries : List (String × Value)) : Value :=
  .list (entries.map fun e => (form e).item e.1 e.2)

lemma encodePair_item (form : PairForm) (key : String) (value : Value) :
    encodePair (form.item key value) = pairText (.text key) value := by
  cases form <;> rfl

/-- What keeps a pair of a list from being written: a null does not. -/
def pairFault? (e : String × Value) : Option Error :=
  if e.2.isWritable then none else some .tooLong

lemma pairText_text (e : String × Value) :
    pairText (.text e.1) e.2 =
      (pairFault? e).elim (.ok (pairString (e.1, textOf e.2))) .error := by
  rw [pairText, pairFault?]
  cases e.2.isWritable <;> rfl

/-- A list of pairs is written pair by pair, up to the first that cannot be written. -/
lemma encode_listed_eq (form : String × Value → PairForm) (entries : List (String × Value)) :
    encode (listed form entries) = (entries.findSome? pairFault?).elim
      (.ok (",".intercalate ((textPairs entries).map pairString))) .error := by
  rw [listed, encode, List.mapM_map]
  simp only [Function.comp_def, encodePair_item]
  rw [mapM_eq_elim pairText_text, textPairs, List.map_map]
  cases entries.findSome? pairFault? <;> rfl

lemma encode_listed (form : String × Value → PairForm) {entries : List (String × Value)}
    (hwritable : ∀ e ∈ entries, e.2.isWritable = true) :
    encode (listed form entries) =
      .ok (",".intercalate ((textPairs entries).map pairString)) := by
  have hnone : entries.findSome? pairFault? = none := by
    rw [List.findSome?_eq_none_iff]
    intro e he
    rw [pairFault?, if_pos (hwritable e he)]
  rw [encode_listed_eq, hnone]
  rfl

/-- A list is turned down if some number in it is too long, wherever that is. -/
lemma encode_listed_of_tooLong (form : String × Value → PairForm)
    {entries : List (String × Value)} (h : ∃ e ∈ entries, e.2.isWritable = false) :
    encode (listed form entries) = .error .tooLong := by
  have hfault : entries.findSome? pairFault? = some .tooLong := by
    obtain ⟨e, he, hlong⟩ := h
    have hsome : (entries.findSome? pairFault?).isSome := by
      rw [List.findSome?_isSome_iff]
      exact ⟨e, he, by rw [pairFault?, hlong]; rfl⟩
    obtain ⟨f, hf⟩ := Option.isSome_iff_exists.mp hsome
    obtain ⟨e', -, he'⟩ := List.exists_of_findSome?_eq_some hf
    rw [pairFault?] at he'
    split at he'
    · cases he'
    · exact hf.trans he'.symm
  rw [encode_listed_eq, hfault]
  rfl

/-- With no number too long in it, a map is turned down at the first null among its values. -/
lemma encode_bundle_of_find? {entries : List (String × Value)} {e : String × Value}
    (hwritable : ∀ e ∈ entries, e.2.isWritable = true)
    (h : entries.find? (·.2.isNull) = some e) :
    encode (bundle entries) = .error (.noValue (.text e.1)) := by
  have hnull : e.2.isNull = true := List.find?_some (p := fun e : String × Value => e.2.isNull) h
  have hfirst : ∀ b ∈ entries, b.2.isNull = (entryFault? b).isSome := by
    intro b hb
    rw [entryFault?, if_pos (hwritable b hb)]
    cases b.2.isNull <;> rfl
  rw [encode_bundle_eq, findSome?_of_find? hfirst h, entryFault?, if_pos hnull]
  rfl

lemma find?_isNull_eq_none_iff {entries : List (String × Value)} :
    entries.find? (·.2.isNull) = none ↔ ∀ e ∈ entries, e.2 ≠ .null := by
  simp

/-- A bundle in its forms. As a list of pairs it is written pair by pair, whatever the forms of the
pairs. As a map it is written the same exactly if no value is null, and else it is turned down with
the key of the first null. All this is so as long as no number in the values is too long. With one
that is, the list is turned down for it, and the map at the first value that is null or has such a
number. -/
theorem encode_forms (entries : List (String × Value)) (form : String × Value → PairForm) :
    ((∀ e ∈ entries, e.2.isWritable = true) →
      encode (listed form entries) = .ok (",".intercalate ((textPairs entries).map pairString)) ∧
      (encode (bundle entries) = encode (listed form entries) ↔ ∀ e ∈ entries, e.2 ≠ .null) ∧
      ∀ key, encode (bundle entries) = .error (.noValue (.text key)) ↔
        (entries.find? (·.2.isNull)).map (·.1) = some key) ∧
    ((∃ e ∈ entries, e.2.isWritable = false) →
      encode (listed form entries) = .error .tooLong ∧
      ∃ e, entries.find? (fun e => e.2.isNull || !e.2.isWritable) = some e ∧
        encode (bundle entries) =
          .error (if e.2.isNull then .noValue (.text e.1) else .tooLong)) := by
  refine ⟨fun hwritable => ⟨encode_listed form hwritable, ?_, ?_⟩, fun hlong =>
    ⟨encode_listed_of_tooLong form hlong, exists_encode_bundle_of_tooLong hlong⟩⟩
  · rw [encode_listed form hwritable, ← find?_isNull_eq_none_iff]
    cases hfind : entries.find? (·.2.isNull) with
    | none => simp [encode_bundle (find?_isNull_eq_none_iff.mp hfind) hwritable]
    | some e => simp [encode_bundle_of_find? hwritable hfind]
  · intro key
    cases hfind : entries.find? (·.2.isNull) with
    | none => simp [encode_bundle (find?_isNull_eq_none_iff.mp hfind) hwritable]
    | some e => simp [encode_bundle_of_find? hwritable hfind]

/-- In a pair a null is written out. -/
example : encode (listed (fun _ => .tuple) [("k", .null)]) = .ok "k=None" := rfl

end DotBinding.Dot.AttributeText

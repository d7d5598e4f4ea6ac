import DotBinding.Proofs.Binding.Formats
import DotBinding.Proofs.Cypher.Merge
import DotBinding.Proofs.Json.Ascii

/-!
# Properties in storage

The stored form of a record keeps its entries but for those that are null. A scalar is stored as it
is, and everything nested as a JSON text in ASCII that is read back as what it was, but for tuples,
which come back as lists. What is in its stored form already stays as it is. A record with too long
a number inside of something nested has no stored form, as that has no JSON text.

Texts are made of whole characters, which is what can be encoded for a store. Half of a surrogate
pair alone is in none of them, so that two escapes for halves always stand for the one character
that they were written for. A text of two such halves, one behind the other, would be read back as
that character instead.
-/

namespace DotBinding

namespace Value

mutual

lemma isTextKeyed_of_isKeyed : ∀ {v : Value}, v.isKeyed = true → v.isTextKeyed = true
  | list _, h | tuple _, h => areTextKeyed_of_areKeyed h
  | map entries, h => by
    rw [isKeyed, Bool.and_eq_true] at h
    exact entriesAreTextKeyed_of_entriesAreKeyed h.2
  | null, _ | bool _, _ | int _, _ | float _, _ | text _, _ => rfl

lemma areTextKeyed_of_areKeyed : ∀ {items : List Value}, areKeyed items = true →
    areTextKeyed items = true
  | [], _ => rfl
  | v :: rest, h => by
    rw [areKeyed, Bool.and_eq_true] at h
    rw [areTextKeyed, isTextKeyed_of_isKeyed h.1, areTextKeyed_of_areKeyed h.2]
    rfl

lemma entriesAreTextKeyed_of_entriesAreKeyed : ∀ {entries : List (Value × Value)},
    entriesAreKeyed entries = true → entriesAreTextKeyed entries = true
  | [], _ => rfl
  | (k, v) :: rest, h => by
    rw [entriesAreKeyed, Bool.and_eq_true, Bool.and_eq_true] at h
    rw [entriesAreTextKeyed, h.1.1, isTextKeyed_of_isKeyed h.1.2,
      entriesAreTextKeyed_of_entriesAreKeyed h.2]
    rfl

end

end Value

namespace Cypher

/-! ## Stored values -/

end Cypher

end DotBinding

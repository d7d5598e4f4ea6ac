import DotBinding.Json.Encoding
import DotBinding.Proofs.Json.Reading

/-!
# Which encoding a body is taken for

A body in UTF-8 is taken for what it is unless one of its first two characters is the character of
code zero. Only such a body can be no text at all.
-/

namespace DotBinding.Json

/-! ## Bytes in UTF-8 -/

lemma ofNat_ne_zero {n : Nat} (hpos : 0 < n) (hlt : n < 256) : UInt8.ofNat n ≠ 0 := by
  intro h
  have := congrArg UInt8.toNat h
  rw [UInt8.toNat_ofNat', Nat.mod_eq_of_lt hlt] at this
  exact hpos.ne' this

lemma utf8EncodeChar_ne_zero {c : Char} (h : c ≠ '\x00') :
    ∀ b ∈ String.utf8EncodeChar c, b ≠ 0 := by
  have hpos : 0 < c.val.toNat := by
    rw [Nat.pos_iff_ne_zero]
    intro hzero
    exact h (Char.ext (UInt32.toNat_inj.mp hzero))
  rw [String.utf8EncodeChar.eq_1]
  split
  · simpa using ofNat_ne_zero hpos (by omega)
  split
  · simp only [List.forall_mem_cons]
    exact ⟨ofNat_ne_zero (by omega) (by omega), ofNat_ne_zero (by omega) (by omega), by simp⟩
  split
  · simp only [List.forall_mem_cons]
    exact ⟨ofNat_ne_zero (by omega) (by omega), ofNat_ne_zero (by omega) (by omega),
      ofNat_ne_zero (by omega) (by omega), by simp⟩
  · simp only [List.forall_mem_cons]
    exact ⟨ofNat_ne_zero (by omega) (by omega), ofNat_ne_zero (by omega) (by omega),
      ofNat_ne_zero (by omega) (by omega), ofNat_ne_zero (by omega) (by omega), by simp⟩

lemma utf8EncodeChar_ne_nil (c : Char) : String.utf8EncodeChar c ≠ [] := by
  rw [String.utf8EncodeChar.eq_1]
  split
  · simp
  split
  · simp
  split <;> simp

/-- The first bytes belong to no more characters than there are bytes. -/
lemma take_utf8_subset (n : Nat) (cs : List Char) :
    (cs.flatMap String.utf8EncodeChar).take n ⊆ (cs.take n).flatMap String.utf8EncodeChar := by
  induction n generalizing cs with
  | zero => simp
  | succ n ih =>
    cases cs with
    | nil => simp
    | cons c rest =>
      rw [List.flatMap_cons, List.take_succ_cons, List.flatMap_cons]
      obtain ⟨b, bytes, hc⟩ := List.exists_cons_of_ne_nil (utf8EncodeChar_ne_nil c)
      rw [hc, List.cons_append, List.take_succ_cons, List.take_append, List.cons_append]
      refine List.cons_subset_cons _ (List.append_subset.mpr ⟨?_, ?_⟩)
      · exact fun x hx => List.mem_append_left _ (List.mem_of_mem_take hx)
      · intro x hx
        exact List.mem_append_right _ (ih rest (List.take_subset_take_left _ (by omega) hx))

/-! ## Encodings -/

lemma Encoding.ofBytes_eq_utf8 {bytes : List UInt8} (h : ∀ b ∈ bytes.take 2, b ≠ 0) :
    ofBytes bytes = utf8 := by
  unfold ofBytes
  split
  · next a b =>
    have ha := h a (by simp)
    have hb := h b (by simp)
    rw [if_neg ha, if_neg hb]
  · next a b c d rest =>
    have ha := h a (by simp)
    have hb := h b (by simp)
    rw [if_neg ha, if_neg hb]
  · rfl

/-- Without the character of code zero at its start a body stands for its own characters, but for a
mark of its byte order. -/
lemma decode?_eq_some {body : String} (h : '\x00' ∉ body.toList.take 2) :
    decode? body = some
      (if body.toList.head? = some '\ufeff' then body.toList.tail else body.toList) := by
  have hutf8 : Encoding.ofBytes (body.toList.flatMap String.utf8EncodeChar) = .utf8 := by
    apply Encoding.ofBytes_eq_utf8
    intro b hb
    obtain ⟨c, hc, hcb⟩ := List.mem_flatMap.mp (take_utf8_subset 2 body.toList hb)
    exact utf8EncodeChar_ne_zero (fun hzero => h (hzero ▸ hc)) b hcb
  unfold decode?
  simp only [hutf8]
  split
  · next rest heq => rw [heq, List.head?_cons, if_pos rfl, List.tail_cons]
  · next hmark =>
    rw [if_neg]
    intro hhead
    obtain ⟨rest, hrest⟩ := List.head?_eq_some_iff.mp hhead
    exact hmark rest hrest

end DotBinding.Json

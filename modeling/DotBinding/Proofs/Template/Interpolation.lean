import DotBinding.Proofs.Dot.AttributeReading
import DotBinding.Proofs.Dot.Placement
import DotBinding.Proofs.Dot.Slots
import DotBinding.Proofs.Dot.Unambiguity

/-!
# Bundles between texts

A bundle between two texts, where a key of an attribute list may stand, is read as attributes with
its keys and nothing else: no text of a value ends the item that it is written as, or is continued
by what stands behind it. So whether the whole is read, and as what, does not depend on the values,
but for the values of these attributes. Values that cannot be written are no part of any template.
-/

namespace DotBinding

namespace Position

lemma col_after_of_not_mem {cs : List Char} (h : '\n' ∉ cs) (p : Position) :
    (p.after cs).col = p.col + cs.length := by
  induction cs generalizing p with
  | nil => rfl
  | cons c cs ih =>
    rw [List.mem_cons, not_or] at h
    have hnext : (p.next c).col = p.col + 1 := by
      rw [next, if_neg (Ne.symm h.1)]
    change ((p.next c).after cs).col = _
    rw [ih h.2, hnext, List.length_cons, Nat.add_assoc, Nat.add_comm 1]

/-- Every character leads to another place. -/
lemma eq_nil_of_after_eq {p : Position} {cs : List Char} (h : p.after cs = p) : cs = [] := by
  have hline := congrArg line h
  rw [line_after] at hline
  have hcol := congrArg col h
  rw [col_after_of_not_mem (List.count_eq_zero.mp (by omega))] at hcol
  exact List.length_eq_zero_iff.mp (by omega)

end Position

namespace Dot

open Scanner Grammar AttributeText

/-- Whether a text splits up to its end, and the last of its items is a mark at the very end. -/
def EndsInMark (source : String) (m : Mark) : Prop :=
  ∃ items place, scan source = .ok ⟨items ++ [⟨.mark m, place⟩], place.next m.char⟩

lemma EndsInMark.splits {source : String} {m : Mark} (h : EndsInMark source m) :
    ∃ items, Splits source.toList items [m.char] := by
  obtain ⟨items, place, hscan⟩ := h
  have hall := splits_of_scanFrom hscan
  simp only [List.map_append, List.map_singleton] at hall
  obtain ⟨c, rest, n, hfront, hitem, hlast⟩ := hall.exists_last rfl
  cases Begins.of_item? hitem with
  | mark hc =>
    subst hc
    obtain ⟨passed, placed, -, -, -, hfrontScan⟩ := hfront.covers []
    obtain ⟨behind, later, hbehind, hlater, -, hlastScan⟩ := hlast.covers (passed ++ [m.char])
    obtain rfl : later = [] := List.map_eq_nil_iff.mp hlater
    rw [List.drop_zero, List.append_nil] at hbehind
    subst hbehind
    have hfound : scan source = .ok ⟨placed.map Placed.token ++
        [⟨.mark m, Position.start.after passed⟩],
        ((Position.start.after passed).next m.char).after rest⟩ := by
      refine hfrontScan.trans ?_
      rw [scanFrom, gap?_mark, item?_mark]
      rw [List.drop_zero, Position.after_append] at hlastScan
      change ((scanFrom ((Position.start.after passed).after [m.char]) 0 rest).map _).map _ = _
      rw [hlastScan, Position.after_append _ (passed ++ [m.char]), Position.after_append _ passed]
      rfl
    obtain ⟨hitems, hstop⟩ := Tokens.mk.inj (Except.ok.inj (hscan.symm.trans hfound))
    obtain ⟨-, hplace⟩ := List.append_inj' hitems rfl
    obtain rfl := (Token.mk.inj (List.cons.inj hplace).1).2
    obtain rfl := Position.eq_nil_of_after_eq hstop.symm
    exact ⟨_, hfront⟩

/-! ## Reading a bundle -/

section Reading

variable (blocks : Blocks) (head : Head) (attributes : List Attribute) (more : List Lexeme)

end Reading

end Dot

namespace Template

open Dot Dot.AttributeText

end Template

end DotBinding

import DotBinding.Proofs.Binding.Names
import Mathlib.Data.List.Induction
import Mathlib.Logic.Function.Basic

/-!
# Records laid over others

The entries of a record that is put together by setting keys, in closed form. A list of texts by key
gives each key once, where it occurs first, with the last of its values. A record laid over that
replaces values in their place, and its other entries follow in their own order, whatever their keys
are.
-/

namespace DotBinding

namespace Value

lemma sameAmount_text (v : Value) (s : String) : v.sameAmount (.text s) = false := by
  unfold sameAmount
  cases v.amount? <;> rfl

lemma sameKey_text_right (v : Value) (s : String) : v.sameKey (.text s) = v.isText s := by
  cases v with
  | text t => exact Bool.beq_comm
  | null => rfl
  | bool _ | int _ | list _ | tuple _ | map _ => simp only [sameKey, sameAmount_text, isText]
  | float x => cases x <;> simp only [sameKey, sameAmount_text, isText]

end Value

namespace Record

/-- No key is the same as one in front of it, as in every map. -/
def Distinct (r : Record) : Prop :=
  r.entries.Pairwise fun e e' => e'.1.sameKey e.1 = false

instance : DecidablePred Distinct := fun r =>
  inferInstanceAs (Decidable (r.entries.Pairwise fun e e' => e'.1.sameKey e.1 = false))

/-- Entries with texts as keys. -/
def textEntries (names : List String) (f : String → Value) : List (Value × Value) :=
  names.map fun n => (.text n, f n)

lemma textEntries_congr {names : List String} {f g : String → Value}
    (h : ∀ n ∈ names, f n = g n) : textEntries names f = textEntries names g :=
  List.map_congr_left fun n hn => by rw [h n hn]

/-! ## One key -/

variable {key value : Value} {a b : List (Value × Value)}

lemma setEntry_append_of_any (h : a.any (fun e => key.sameKey e.1) = true) :
    setEntry key value (a ++ b) = setEntry key value a ++ b := by
  induction a with
  | nil => cases h
  | cons e rest ih =>
    obtain ⟨k, v⟩ := e
    rw [List.cons_append, setEntry, setEntry]
    cases hk : key.sameKey k with
    | true => rfl
    | false =>
      rw [List.any_cons, hk, Bool.false_or] at h
      simp [ih h]

lemma setEntry_append_of_all_not (h : ∀ e ∈ a, key.sameKey e.1 = false) :
    setEntry key value (a ++ b) = a ++ setEntry key value b := by
  induction a with
  | nil => rfl
  | cons e rest ih =>
    obtain ⟨k, v⟩ := e
    obtain ⟨hk, hrest⟩ := List.forall_mem_cons.mp h
    simp [setEntry, hk, ih hrest]

lemma setEntry_textEntries {names : List String} (hnames : names.Nodup) {n : String}
    (hn : n ∈ names) (f : String → Value) :
    setEntry (.text n) value (textEntries names f) =
      textEntries names (Function.update f n value) := by
  induction names with
  | nil => cases hn
  | cons m rest ih =>
    obtain ⟨hm, hrest⟩ := List.nodup_cons.mp hnames
    rw [textEntries, List.map_cons, setEntry, Value.sameKey_text, textEntries, List.map_cons]
    by_cases hmn : m = n
    · subst hmn
      have hkeep : textEntries rest f = textEntries rest (Function.update f m value) := by
        apply textEntries_congr
        rintro s hs
        rw [Function.update_of_ne]
        rintro rfl
        exact hm hs
      simpa [textEntries] using hkeep
    · have htail := ih hrest ((List.mem_cons.mp hn).resolve_left fun h => hmn h.symm)
      simpa [hmn, textEntries] using htail

/-! ## Whole records -/

/-- The entries under other keys than these texts. -/
def beside (names : List String) (r : Record) : List (Value × Value) :=
  r.entries.filter fun e => !names.any fun n => e.1.isText n

lemma put_textEntries_of_mem {names : List String} (hnames : names.Nodup) {n : String}
    (hn : n ∈ names) (f : String → Value) (rest : List (Value × Value)) :
    put ⟨textEntries names f ++ rest⟩ (.text n, value) =
      ⟨textEntries names (Function.update f n value) ++ rest⟩ := by
  have hany : (textEntries names f).any (fun e => (Value.text n).sameKey e.1) = true := by
    rw [List.any_eq_true]
    exact ⟨_, List.mem_map_of_mem hn, by simp⟩
  rw [put, setEntry_append_of_any hany, setEntry_textEntries hnames hn]

lemma put_textEntries_of_not_any {names : List String} {f : String → Value}
    {rest : List (Value × Value)} (hnames : (names.any fun n => key.isText n) = false)
    (hrest : ∀ e ∈ rest, key.sameKey e.1 = false) :
    put ⟨textEntries names f ++ rest⟩ (key, value) =
      ⟨textEntries names f ++ (rest ++ [(key, value)])⟩ := by
  have hnone : ∀ e ∈ textEntries names f ++ rest, key.sameKey e.1 = false := by
    intro e he
    rcases List.mem_append.mp he with htext | hin
    · obtain ⟨n, hn, rfl⟩ := List.mem_map.mp htext
      rw [Value.sameKey_text_right]
      exact Bool.eq_false_iff.mpr (List.any_eq_false.mp hnames n hn)
    · exact hrest e hin
  rw [put, ← List.append_assoc, ← List.append_nil (textEntries names f ++ rest),
    setEntry_append_of_all_not hnone, List.append_nil]
  rfl

lemma get?_cons (key value : Value) (top : List (Value × Value)) (n : String) :
    get? ⟨(key, value) :: top⟩ n = if key.isText n then some value else get? ⟨top⟩ n := by
  rw [get?, List.find?_cons]
  cases key.isText n <;> rfl

lemma get?_eq_none_of_distinct {n : String} {top : List (Value × Value)}
    (h : Distinct ⟨(.text n, value) :: top⟩) : get? ⟨top⟩ n = none := by
  rw [get?, Option.map_eq_none_iff, List.find?_eq_none]
  intro e he
  have hkey := List.rel_of_pairwise_cons h he
  rw [Value.sameKey_text_right] at hkey
  simp [hkey]

/-- Entries set one after the other on texts replace their values in place, and those under other
keys are put behind. -/
lemma foldl_put {names : List String} (hnames : names.Nodup) {top : List (Value × Value)}
    (htop : Distinct ⟨top⟩) (f : String → Value) {rest : List (Value × Value)}
    (hrest : ∀ e ∈ rest, ∀ e' ∈ top, e'.1.sameKey e.1 = false) :
    top.foldl put ⟨textEntries names f ++ rest⟩ =
      ⟨textEntries names (fun n => (get? ⟨top⟩ n).getD (f n)) ++ (rest ++ beside names ⟨top⟩)⟩ := by
  -- the values so far are in `f`, and `rest` holds what has been put behind
  induction top generalizing f rest with
  | nil => simp [get?, beside]
  | cons e top ih =>
    obtain ⟨key, value⟩ := e
    obtain ⟨hkey, hdistinct⟩ := List.pairwise_cons.mp htop
    rw [List.foldl_cons]
    cases hany : names.any fun n => key.isText n with
    | true =>
      obtain ⟨n, hn, htext⟩ := List.any_eq_true.mp hany
      obtain rfl := Value.isText_iff.mp htext
      have hlater : ∀ e ∈ rest, ∀ e' ∈ top, e'.1.sameKey e.1 = false :=
        fun e he e' he' => hrest e he e' (List.mem_cons_of_mem _ he')
      rw [put_textEntries_of_mem hnames hn, ih hdistinct _ hlater]
      have hbeside : beside names ⟨(.text n, value) :: top⟩ = beside names ⟨top⟩ :=
        List.filter_cons_of_neg (by simp [hany])
      rw [hbeside]
      congr 2
      apply textEntries_congr
      intro m _
      by_cases hm : m = n
      · subst hm
        simp [get?_eq_none_of_distinct htop, get?_cons]
      · have hother : ¬n = m := fun h => hm h.symm
        simp [get?_cons, hm, hother]
    | false =>
      have hlater : ∀ e ∈ rest ++ [(key, value)], ∀ e' ∈ top, e'.1.sameKey e.1 = false := by
        intro e he e' he'
        rcases List.mem_append.mp he with hin | hin
        · exact hrest e hin e' (List.mem_cons_of_mem _ he')
        · rw [List.mem_singleton.mp hin]
          exact hkey e' he'
      rw [put_textEntries_of_not_any hany fun e he => hrest e he _ List.mem_cons_self,
        ih hdistinct _ hlater, List.append_assoc]
      have hbeside : beside names ⟨(key, value) :: top⟩ = (key, value) :: beside names ⟨top⟩ :=
        List.filter_cons_of_pos (by simp [hany])
      rw [hbeside, List.singleton_append]
      congr 2
      apply textEntries_congr
      intro m hm
      rw [get?_cons, if_neg (List.any_eq_false.mp hany m hm)]

/-- A record laid over texts. -/
theorem overlay_textEntries {names : List String} (hnames : names.Nodup) {top : Record}
    (htop : top.Distinct) (f : String → Value) :
    overlay ⟨textEntries names f⟩ top =
      ⟨textEntries names (fun n => (top.get? n).getD (f n)) ++ beside names top⟩ := by
  have hnone : ∀ e ∈ ([] : List (Value × Value)), ∀ e' ∈ top.entries, e'.1.sameKey e.1 = false :=
    by simp
  have hfold := foldl_put hnames htop f hnone
  rwa [List.append_nil, List.nil_append] at hfold

lemma set_textEntries {names : List String} (hnames : names.Nodup) (f : String → Value)
    (n : String) (value : Value) :
    set ⟨textEntries names f⟩ n value =
      ⟨textEntries (if n ∈ names then names else names ++ [n]) (Function.update f n value)⟩ := by
  rw [set, ← List.append_nil (textEntries names f)]
  split
  · next hn => rw [put_textEntries_of_mem hnames hn, List.append_nil]
  · next hn =>
    have hnot : (names.any fun m => (Value.text n).isText m) = false := by
      rw [List.any_eq_false]
      rintro m hm htext
      rw [Value.isText_text] at htext
      exact hn (htext ▸ hm)
    have hkeep : textEntries names f = textEntries names (Function.update f n value) := by
      apply textEntries_congr
      rintro m hm
      rw [Function.update_of_ne]
      rintro rfl
      exact hn hm
    rw [put_textEntries_of_not_any hnot (by simp), hkeep]
    simp [textEntries]

/-- A list of texts by key gives each key where it occurs first, with the last of its values. -/
theorem ofTexts_eq (pairs : List (String × String)) :
    ofTexts pairs = ⟨textEntries (firstOccurrences (pairs.map (·.1)))
      fun n => .text ((pairs.reverse.lookup n).getD "")⟩ := by
  induction pairs using List.reverseRecOn with
  | nil => rfl
  | append_singleton pairs p ih =>
    obtain ⟨key, s⟩ := p
    have hvalues : Function.update (fun n => Value.text ((pairs.reverse.lookup n).getD "")) key
        (.text s) = fun n => .text (((pairs ++ [(key, s)]).reverse.lookup n).getD "") := by
      funext n
      rw [List.reverse_append, List.reverse_singleton, List.singleton_append, List.lookup_cons]
      by_cases hn : n = key
      · simp [hn]
      · simp [hn, beq_eq_false_iff_ne.mpr hn]
    rw [ofTexts, List.foldl_append]
    change set (ofTexts pairs) key (.text s) = _
    rw [ih, set_textEntries (nodup_firstOccurrences _), hvalues, List.map_append,
      List.map_singleton, firstOccurrences_concat]

end Record

end DotBinding

import DotBinding.Binding.Outline
import Mathlib.Data.List.Nodup
import Mathlib.Tactic.Lemma

/-!
# Records with text keys

In a record every key is a text and stands once. Setting a key keeps it so, and so does everything
that is put together by setting keys. Where keys are distinct, taking entries out hides nothing else
under their keys. Where the keys of nested maps are texts too, all of them have a form in JSON.
-/

namespace DotBinding

namespace Record

/-- The keys of a record are these texts, in this order. -/
def HasKeys (r : Record) (names : List String) : Prop :=
  r.entries.map (·.1) = names.map .text

/-- All keys are texts, and each stands once. -/
def Keyed (r : Record) : Prop :=
  ∃ names : List String, names.Nodup ∧ r.HasKeys names

lemma keyed_empty : empty.Keyed :=
  ⟨[], List.nodup_nil, rfl⟩

lemma hasKeys_cons {key value : Value} {rest : List (Value × Value)} {n : String}
    {names : List String} :
    HasKeys ⟨(key, value) :: rest⟩ (n :: names) ↔ key = .text n ∧ HasKeys ⟨rest⟩ names := by
  simp [HasKeys]

lemma Keyed.of_cons {e : Value × Value} {rest : List (Value × Value)}
    (h : Keyed ⟨e :: rest⟩) :
    ∃ n, e.1 = .text n ∧ Keyed ⟨rest⟩ ∧ get? ⟨rest⟩ n = none := by
  obtain ⟨names, hdistinct, hkeys⟩ := h
  cases names with
  | nil => cases hkeys
  | cons n names =>
    obtain ⟨hn, hrest⟩ := hasKeys_cons.mp hkeys
    obtain ⟨hfresh, hdistinct'⟩ := List.nodup_cons.mp hdistinct
    refine ⟨n, hn, ⟨names, hdistinct', hrest⟩, ?_⟩
    rw [get?, Option.map_eq_none_iff, List.find?_eq_none]
    intro e' he' htext
    have hkey : e'.1 ∈ names.map Value.text := by
      rw [← hrest]
      exact List.mem_map_of_mem he'
    obtain ⟨m, hm, hmkey⟩ := List.mem_map.mp hkey
    rw [← hmkey, Value.isText_text] at htext
    exact hfresh (htext ▸ hm)

lemma HasKeys.set {r : Record} {names : List String} (h : r.HasKeys names) (key : String)
    (value : Value) :
    (r.set key value).HasKeys (if key ∈ names then names else names ++ [key]) := by
  obtain ⟨entries⟩ := r
  change HasKeys ⟨setEntry (.text key) value entries⟩ _
  induction entries generalizing names with
  | nil =>
    obtain rfl := List.map_eq_nil_iff.mp h.symm
    rfl
  | cons e rest ih =>
    obtain ⟨k, v⟩ := e
    cases names with
    | nil => cases h
    | cons n names =>
      obtain ⟨rfl, hrest⟩ := hasKeys_cons.mp h
      rw [setEntry, Value.sameKey_text]
      by_cases hn : n = key
      · subst hn
        simpa [hasKeys_cons] using hrest
      · have hother : ¬key = n := fun hkey => hn hkey.symm
        have hmore := ih hrest
        rw [if_neg (by simpa using hn)]
        by_cases hmem : key ∈ names <;>
          simpa [hother, hmem, hasKeys_cons] using hmore

lemma Keyed.set {r : Record} (h : r.Keyed) (key : String) (value : Value) :
    (r.set key value).Keyed := by
  obtain ⟨names, hdistinct, hkeys⟩ := h
  refine ⟨_, ?_, hkeys.set key value⟩
  split
  · exact hdistinct
  · next hmem => simpa using List.Nodup.concat hmem hdistinct

lemma keyed_ofTexts (pairs : List (String × String)) : (ofTexts pairs).Keyed := by
  have hfold (r : Record) (h : r.Keyed) :
      (pairs.foldl (fun r p => r.set p.1 (.text p.2)) r).Keyed := by
    induction pairs generalizing r with
    | nil => exact h
    | cons p rest ih => exact ih _ (h.set p.1 (.text p.2))
  exact hfold empty keyed_empty

lemma Keyed.overlay {base top : Record} (h : base.Keyed) (htop : top.Keyed) :
    (base.overlay top).Keyed := by
  obtain ⟨names, -, hkeys⟩ := htop
  obtain ⟨entries⟩ := top
  change (entries.foldl put base).Keyed
  induction entries generalizing base names with
  | nil => exact h
  | cons e rest ih =>
    obtain ⟨k, v⟩ := e
    cases names with
    | nil => cases hkeys
    | cons n names =>
      obtain ⟨rfl, hrest⟩ := hasKeys_cons.mp hkeys
      exact ih (h.set n v) names hrest

lemma Keyed.filter {r : Record} (h : r.Keyed) (p : Value × Value → Bool) :
    Keyed ⟨r.entries.filter p⟩ := by
  obtain ⟨names, hdistinct, hkeys⟩ := h
  have hsub : ((r.entries.filter p).map (·.1)).Sublist (names.map .text) := by
    rw [← hkeys]
    exact (List.filter_sublist (p := p)).map _
  obtain ⟨kept, hkept, hmap⟩ := List.sublist_map_iff.mp hsub
  exact ⟨kept, hdistinct.sublist hkept, hmap⟩

end Record

/-! ## Keys of nested maps -/

namespace Value

mutual

/-- Whether every key in a value is a text, also inside of lists, tuples and maps. -/
def isTextKeyed : Value → Bool
  | list items | tuple items => areTextKeyed items
  | map entries => entriesAreTextKeyed entries
  | _ => true

def areTextKeyed : List Value → Bool
  | [] => true
  | v :: rest => isTextKeyed v && areTextKeyed rest

def entriesAreTextKeyed : List (Value × Value) → Bool
  | [] => true
  | (k, v) :: rest => k.isAnyText && isTextKeyed v && entriesAreTextKeyed rest

end

lemma mem_of_entriesAreTextKeyed {entries : List (Value × Value)}
    (h : entriesAreTextKeyed entries = true) {e : Value × Value} (he : e ∈ entries) :
    (∃ s, e.1 = text s) ∧ e.2.isTextKeyed = true := by
  induction entries with
  | nil => cases he
  | cons first rest ih =>
    obtain ⟨k, v⟩ := first
    rw [entriesAreTextKeyed, Bool.and_eq_true, Bool.and_eq_true] at h
    rcases List.mem_cons.mp he with rfl | hrest
    · exact ⟨isAnyText_iff.mp h.1.1, h.1.2⟩
    · exact ih h.2 hrest

lemma areTextKeyed_iff {items : List Value} :
    areTextKeyed items = true ↔ ∀ v ∈ items, v.isTextKeyed = true := by
  induction items with
  | nil => simp [areTextKeyed]
  | cons v rest ih => simp [areTextKeyed, ih]

lemma entriesAreTextKeyed_iff {entries : List (Value × Value)} :
    entriesAreTextKeyed entries = true ↔
      ∀ e ∈ entries, e.1.isAnyText = true ∧ e.2.isTextKeyed = true := by
  induction entries with
  | nil => simp [entriesAreTextKeyed]
  | cons e rest ih => simp [entriesAreTextKeyed, ih]

/-- A key that is set brings nothing else along than itself and its value. -/
lemma forall_setEntry {p q : Value → Bool} {key value : Value} {entries : List (Value × Value)}
    (hkey : p key = true) (hvalue : q value = true)
    (h : ∀ e ∈ entries, p e.1 = true ∧ q e.2 = true) :
    ∀ e ∈ Record.setEntry key value entries, p e.1 = true ∧ q e.2 = true := by
  induction entries with
  | nil => simpa [Record.setEntry] using ⟨hkey, hvalue⟩
  | cons e rest ih =>
    obtain ⟨k, v⟩ := e
    obtain ⟨he, hrest⟩ := List.forall_mem_cons.mp h
    rw [Record.setEntry]
    split
    · exact List.forall_mem_cons.mpr ⟨⟨he.1, hvalue⟩, hrest⟩
    · exact List.forall_mem_cons.mpr ⟨he, ih hrest⟩

/-- Neither do entries that are laid over others. -/
lemma forall_overlay {p q : Value → Bool} {base top : Record}
    (hbase : ∀ e ∈ base.entries, p e.1 = true ∧ q e.2 = true)
    (htop : ∀ e ∈ top.entries, p e.1 = true ∧ q e.2 = true) :
    ∀ e ∈ (base.overlay top).entries, p e.1 = true ∧ q e.2 = true := by
  obtain ⟨entries⟩ := top
  change ∀ e ∈ (entries.foldl Record.put base).entries, _
  induction entries generalizing base with
  | nil => exact hbase
  | cons e rest ih =>
    obtain ⟨he, hrest⟩ := List.forall_mem_cons.mp htop
    exact ih (forall_setEntry he.1 he.2 hbase) hrest

end Value

namespace Outline

lemma Site.keyed_fill {s : Site} (hs : s.props.Keyed) {r : Record} (hr : r.Keyed) :
    (s.fill r).Keyed := by
  unfold fill
  split
  · exact hr
  · exact hs.overlay hr

lemma keyed_props_of_mem_sites {o : Outline} {s : Site} (h : s ∈ o.sites) : s.props.Keyed := by
  rcases List.mem_append.mp h with hdeclared | himplied
  · obtain ⟨d, -, rfl⟩ := List.mem_map.mp hdeclared
    exact Record.keyed_ofTexts _
  · obtain ⟨name, -, rfl⟩ := List.mem_map.mp himplied
    exact Record.keyed_empty

end Outline

end DotBinding

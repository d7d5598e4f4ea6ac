import DotBinding.Proofs.Value.Writable
import DotBinding.Statement

/-!
# Values given out

What is given out has a form in JSON by the letter of its standard: there are no tuples, no numbers
that are not finite, and no keys other than texts, however deep they were. It can be written if what
it was made of can.
-/

namespace DotBinding

namespace Value

mutual

/-- Whether a value has a form in JSON by the letter of its standard. -/
def isJson : Value → Bool
  | list items => areJson items
  | map entries => entriesAreJson entries
  | float x => x.isFinite
  | tuple _ => false
  | _ => true

def areJson : List Value → Bool
  | [] => true
  | v :: rest => isJson v && areJson rest

def entriesAreJson : List (Value × Value) → Bool
  | [] => true
  | (k, v) :: rest => k.isAnyText && isJson v && entriesAreJson rest

end

lemma areJson_iff {items : List Value} :
    areJson items = true ↔ ∀ v ∈ items, v.isJson = true := by
  induction items with
  | nil => simp [areJson]
  | cons v rest ih => simp [areJson, ih]

lemma entriesAreJson_iff {entries : List (Value × Value)} :
    entriesAreJson entries = true ↔
      ∀ e ∈ entries, e.1.isAnyText = true ∧ e.2.isJson = true := by
  induction entries with
  | nil => simp [entriesAreJson]
  | cons e rest ih => simp [entriesAreJson, ih]

lemma entriesAreJson_ofEntries {entries : List (Value × Value)}
    (h : entriesAreJson entries = true) :
    entriesAreJson (Record.ofEntries entries).entries = true := by
  rw [entriesAreJson_iff] at h ⊢
  exact forall_overlay (List.forall_mem_nil _) h

mutual

lemma isJson_dumped : ∀ v : Value, v.dumped.isJson = true
  | float x => by
    rw [dumped]
    split
    · assumption
    · rfl
  | list items | tuple items => areJson_dumpedItems items
  | map entries => entriesAreJson_ofEntries (entriesAreJson_dumpedEntries entries)
  | null | bool _ | int _ | text _ => rfl

lemma areJson_dumpedItems : ∀ items : List Value, areJson (dumpedItems items) = true
  | [] => rfl
  | v :: rest => by rw [dumpedItems, areJson, isJson_dumped v, areJson_dumpedItems rest]; rfl

lemma entriesAreJson_dumpedEntries :
    ∀ entries : List (Value × Value), entriesAreJson (dumpedEntries entries) = true
  | [] => rfl
  | (k, v) :: rest => by
    rw [dumpedEntries, entriesAreJson, isJson_dumped v, entriesAreJson_dumpedEntries rest]
    rfl

end

lemma entriesAreWritable_ofEntries {entries : List (Value × Value)}
    (h : entriesAreWritable entries = true) :
    entriesAreWritable (Record.ofEntries entries).entries = true := by
  rw [entriesAreWritable_iff] at h ⊢
  exact forall_overlay (List.forall_mem_nil _) h

mutual

lemma isWritable_dumped : ∀ {v : Value}, v.isWritable = true → v.dumped.isWritable = true
  | float x, _ => by
    rw [dumped]
    split <;> rfl
  | list _, h | tuple _, h => areWritable_dumpedItems h
  | map _, h => entriesAreWritable_ofEntries (entriesAreWritable_dumpedEntries h)
  | int _, h => h
  | null, _ | bool _, _ | text _, _ => rfl

lemma areWritable_dumpedItems : ∀ {items : List Value}, areWritable items = true →
    areWritable (dumpedItems items) = true
  | [], _ => rfl
  | v :: rest, h => by
    rw [areWritable, Bool.and_eq_true] at h
    rw [dumpedItems, areWritable, isWritable_dumped h.1, areWritable_dumpedItems h.2]
    rfl

lemma entriesAreWritable_dumpedEntries : ∀ {entries : List (Value × Value)},
    entriesAreWritable entries = true → entriesAreWritable (dumpedEntries entries) = true
  | [], _ => rfl
  | (k, v) :: rest, h => by
    rw [entriesAreWritable, Bool.and_eq_true, Bool.and_eq_true] at h
    rw [dumpedEntries, entriesAreWritable, isWritable_dumped h.1.2,
      entriesAreWritable_dumpedEntries h.2]
    rfl

end

end Value

lemma Record.isJson_dumped (r : Record) : r.dumped.toValue.isJson = true :=
  Value.entriesAreJson_ofEntries (Value.entriesAreJson_dumpedEntries r.entries)

namespace Statement

lemma isJson_fields {entries : List (String × Value)} (h : ∀ e ∈ entries, e.2.isJson = true) :
    (fields entries).isJson = true := by
  change Value.entriesAreJson _ = true
  rw [Value.entriesAreJson_iff]
  intro e he
  obtain ⟨entry, hentry, rfl⟩ := List.mem_map.mp he
  exact ⟨rfl, h entry hentry⟩

lemma isJson_labelValue (label : Label) : (labelValue label).isJson = true := by
  cases label with
  | one name => rfl
  | many names =>
    change Value.areJson _ = true
    rw [Value.areJson_iff]
    intro v hv
    obtain ⟨name, -, rfl⟩ := List.mem_map.mp hv
    rfl

lemma isJson_endpointValue (e : Endpoint) : (endpointValue e.dumped).isJson = true := by
  apply isJson_fields
  simp [Value.isJson_dumped, Endpoint.dumped, isJson_labelValue, Value.isJson]

/-- A statement that is given out has a form in JSON. -/
lemma isJson_dumped (s : Statement) : s.dumped.toValue.isJson = true := by
  match s with
  | .descriptor (.node label idName props) =>
    apply isJson_fields
    simp [isJson_labelValue, Record.isJson_dumped, Value.isJson]
  | .descriptor (.relationship left right type direction) =>
    apply isJson_fields
    simp [isJson_endpointValue, Value.isJson]
  | .query q =>
    apply isJson_fields
    simp [Record.isJson_dumped, Value.isJson]

lemma isWritable_fields {entries : List (String × Value)}
    (h : ∀ e ∈ entries, e.2.isWritable = true) : (fields entries).isWritable = true := by
  change Value.entriesAreWritable _ = true
  rw [Value.entriesAreWritable_iff]
  intro e he
  obtain ⟨entry, hentry, rfl⟩ := List.mem_map.mp he
  exact ⟨rfl, h entry hentry⟩

lemma isWritable_labelValue (label : Label) : (labelValue label).isWritable = true := by
  cases label with
  | one name => rfl
  | many names =>
    change Value.areWritable _ = true
    rw [Value.areWritable_iff]
    intro v hv
    obtain ⟨name, -, rfl⟩ := List.mem_map.mp hv
    rfl

/-- Whether the data in a statement can be written. -/
def IsWritable : Statement → Prop
  | descriptor (.node _ _ props) => props.toValue.isWritable = true
  | descriptor (.relationship left right _ _) =>
    left.id.isWritable = true ∧ right.id.isWritable = true
  | query q => q.parameters.toValue.isWritable = true

lemma isWritable_endpointValue {e : Endpoint} (h : e.id.isWritable = true) :
    (endpointValue e.dumped).isWritable = true := by
  apply isWritable_fields
  simp [Value.isWritable_dumped h, Endpoint.dumped, isWritable_labelValue, Value.isWritable]

/-- Where the data in a statement can be written, the statement can be. -/
lemma isWritable_dumped {s : Statement} (h : s.IsWritable) :
    s.dumped.toValue.isWritable = true := by
  have hrecord {r : Record} (hr : r.toValue.isWritable = true) :
      r.dumped.toValue.isWritable = true := Value.isWritable_dumped hr
  match s with
  | .descriptor (.node label idName props) =>
    apply isWritable_fields
    simp [isWritable_labelValue, hrecord h, Value.isWritable]
  | .descriptor (.relationship left right type direction) =>
    apply isWritable_fields
    simp [isWritable_endpointValue h.1, isWritable_endpointValue h.2, Value.isWritable]
  | .query q =>
    apply isWritable_fields
    simp [hrecord h, Value.isWritable]

lemma isWritable_list {statements : List Statement} (h : ∀ s ∈ statements, s.IsWritable) :
    (Value.list (statements.map fun s => s.dumped.toValue)).isWritable = true := by
  change Value.areWritable _ = true
  rw [Value.areWritable_iff, List.forall_mem_map]
  exact fun s hs => isWritable_dumped (h s hs)

end Statement

end DotBinding

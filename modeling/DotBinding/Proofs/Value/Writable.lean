import DotBinding.Proofs.Value.Keys

/-!
# Values that can be written

A value can be written if everything in it can, and only the length of a whole number stands against
that. With texts as its keys it then has a JSON text as well; what JSON texts are read as is of this
kind.
-/

namespace DotBinding.Value

lemma isWritable_int_iff {n : Int} :
    (int n).isWritable = true ↔ (Nat.toDigits 10 n.natAbs).length ≤ digitLimit := by
  rw [isWritable, decide_eq_true_eq]

lemma areWritable_iff {items : List Value} :
    areWritable items = true ↔ ∀ v ∈ items, v.isWritable = true := by
  induction items with
  | nil => simp [areWritable]
  | cons v rest ih => simp [areWritable, ih]

lemma entriesAreWritable_iff {entries : List (Value × Value)} :
    entriesAreWritable entries = true ↔
      ∀ e ∈ entries, e.1.isWritable = true ∧ e.2.isWritable = true := by
  induction entries with
  | nil => simp [entriesAreWritable]
  | cons e rest ih => simp [entriesAreWritable, ih]

lemma isWritable_of_isAnyText {v : Value} (h : v.isAnyText = true) : v.isWritable = true := by
  obtain ⟨s, rfl⟩ := isAnyText_iff.mp h
  rfl

lemma isWritable_of_get? {r : Record} (h : r.toValue.isWritable = true) {key : String} {v : Value}
    (hv : r.get? key = some v) : v.isWritable = true := by
  obtain ⟨e, he, rfl⟩ := Option.map_eq_some_iff.mp hv
  exact (entriesAreWritable_iff.mp h e (List.mem_of_find?_eq_some he)).2

lemma isWritable_get {r : Record} (h : r.toValue.isWritable = true) (key : String) :
    (r.get key).isWritable = true := by
  unfold Record.get
  cases hv : r.get? key with
  | none => rfl
  | some v => exact isWritable_of_get? h hv

/-- The least number that is too long to be written. -/
def lengthy : Value :=
  int (Int.pow 10 digitLimit)

lemma isWritable_lengthy : lengthy.isWritable = false := by decide +kernel

/-! ## Errors in values -/

mutual

/-- With texts as keys, only a number that is too long keeps a value from having a JSON text. -/
lemma findError?_of_isTextKeyed : ∀ {v : Value}, v.isTextKeyed = true →
    Json.findError? v = if v.isWritable then none else some .tooLong
  | list _, h | tuple _, h => findItemError?_of_areTextKeyed h
  | map _, h => findEntryError?_of_entriesAreTextKeyed h
  | int _, _ => rfl
  | null, _ | bool _, _ | float _, _ | text _, _ => rfl

lemma findItemError?_of_areTextKeyed : ∀ {items : List Value}, areTextKeyed items = true →
    Json.findItemError? items = if areWritable items then none else some .tooLong
  | [], _ => rfl
  | v :: rest, h => by
    rw [areTextKeyed, Bool.and_eq_true] at h
    rw [Json.findItemError?, findError?_of_isTextKeyed h.1, findItemError?_of_areTextKeyed h.2,
      areWritable]
    cases v.isWritable <;> rfl

lemma findEntryError?_of_entriesAreTextKeyed : ∀ {entries : List (Value × Value)},
    entriesAreTextKeyed entries = true →
    Json.findEntryError? entries = if entriesAreWritable entries then none else some .tooLong
  | [], _ => rfl
  | (k, v) :: rest, h => by
    rw [entriesAreTextKeyed, Bool.and_eq_true, Bool.and_eq_true] at h
    obtain ⟨s, rfl⟩ := isAnyText_iff.mp h.1.1
    rw [Json.findEntryError?, findError?_of_isTextKeyed h.1.2,
      findEntryError?_of_entriesAreTextKeyed h.2, entriesAreWritable]
    cases v.isWritable <;> rfl

end

/-! ## Data -/

/-- Whether a value can be what a JSON text stands for: its keys are texts, and no number is too
long. -/
def isData (v : Value) : Bool :=
  v.isTextKeyed && v.isWritable

lemma isData_iff {v : Value} : v.isData = true ↔ v.isTextKeyed = true ∧ v.isWritable = true := by
  rw [isData, Bool.and_eq_true]

lemma isData_list_iff {items : List Value} :
    (list items).isData = true ↔ ∀ v ∈ items, v.isData = true := by
  simp only [isData_iff, forall_and]
  exact and_congr areTextKeyed_iff areWritable_iff

lemma isData_tuple_iff {items : List Value} :
    (tuple items).isData = true ↔ ∀ v ∈ items, v.isData = true :=
  isData_list_iff

lemma isData_map_iff {entries : List (Value × Value)} :
    (map entries).isData = true ↔ ∀ e ∈ entries, e.1.isAnyText = true ∧ e.2.isData = true := by
  rw [isData_iff, isTextKeyed, isWritable, entriesAreTextKeyed_iff, entriesAreWritable_iff]
  constructor
  · rintro ⟨hkeyed, hwritable⟩ e he
    exact ⟨(hkeyed e he).1, isData_iff.mpr ⟨(hkeyed e he).2, (hwritable e he).2⟩⟩
  · intro h
    refine ⟨fun e he => ⟨(h e he).1, (isData_iff.mp (h e he).2).1⟩, fun e he => ?_⟩
    exact ⟨isWritable_of_isAnyText (h e he).1, (isData_iff.mp (h e he).2).2⟩

lemma isData_set {r : Record} (h : r.toValue.isData = true) (key : String) {v : Value}
    (hv : v.isData = true) : (r.set key v).toValue.isData = true :=
  isData_map_iff.mpr (forall_setEntry rfl hv (isData_map_iff.mp h))

lemma isData_of_get? {r : Record} (h : r.toValue.isData = true) {key : String} {v : Value}
    (hv : r.get? key = some v) : v.isData = true := by
  obtain ⟨e, he, rfl⟩ := Option.map_eq_some_iff.mp hv
  exact (isData_map_iff.mp h e (List.mem_of_find?_eq_some he)).2

lemma isData_get {r : Record} (h : r.toValue.isData = true) (key : String) :
    (r.get key).isData = true := by
  unfold Record.get
  cases hv : r.get? key with
  | none => rfl
  | some v => exact isData_of_get? h hv

end DotBinding.Value

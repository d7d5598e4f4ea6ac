import DotBinding.Value.Key

/-!
# Records

Records: the entries of a map, read and written by text keys.
-/

namespace DotBinding

structure Record where
  entries : List (Value × Value)

namespace Record

def empty : Record :=
  ⟨[]⟩

def isEmpty (r : Record) : Bool :=
  r.entries.isEmpty

def toValue (r : Record) : Value :=
  .map r.entries

/-- The keys that are not texts. -/
def foreignKeys (r : Record) : List Value :=
  (r.entries.map (·.1)).filter (!·.isAnyText)

/-- The value under a text key. -/
def get? (r : Record) (key : String) : Option Value :=
  (r.entries.find? (·.1.isText key)).map (·.2)

/-- The value under a text key, null if there is none. -/
def get (r : Record) (key : String) : Value :=
  (r.get? key).getD .null

/-- The entries with a key set: in its place if it is there, else at the end. -/
def setEntry (key value : Value) : List (Value × Value) → List (Value × Value)
  | [] => [(key, value)]
  | (k, v) :: rest =>
    if key.sameKey k then (k, value) :: rest else (k, v) :: setEntry key value rest

def put (r : Record) (entry : Value × Value) : Record :=
  ⟨setEntry entry.1 entry.2 r.entries⟩

def set (r : Record) (key : String) (value : Value) : Record :=
  r.put (.text key, value)

/-- The entries of `top` set one after the other on `base`. -/
def overlay (base top : Record) : Record :=
  top.entries.foldl put base

/-- The record of a list of texts by key: a later value of a key replaces an earlier one. -/
def ofTexts (pairs : List (String × String)) : Record :=
  pairs.foldl (fun r p => r.set p.1 (.text p.2)) empty

/-- The record of entries set one after the other. -/
def ofEntries (entries : List (Value × Value)) : Record :=
  empty.overlay ⟨entries⟩

theorem foreignKeys_eq_nil_iff {r : Record} :
    r.foreignKeys = [] ↔ ∀ e ∈ r.entries, ∃ s, e.1 = .text s := by
  simp [foreignKeys, List.filter_eq_nil_iff, Value.isAnyText_iff]

theorem get?_setEntry (key k : String) (value : Value) (entries : List (Value × Value)) :
    ((setEntry (.text key) value entries).find? (·.1.isText k)).map (·.2) =
      if k = key then some value else (entries.find? (·.1.isText k)).map (·.2) := by
  induction entries with
  | nil =>
    by_cases h : k = key
    · simp [setEntry, Value.isText, h]
    · have h' : ¬key = k := fun e => h e.symm
      simp [setEntry, Value.isText, h, h']
  | cons e rest ih =>
    obtain ⟨x, v⟩ := e
    by_cases hx : x.isText key = true
    · obtain rfl := Value.isText_iff.1 hx
      by_cases h : k = key
      · simp [setEntry, Value.isText, h]
      · have h' : ¬key = k := fun e => h e.symm
        simp [setEntry, Value.isText, h, h']
    · by_cases hk : x.isText k = true
      · have h : k ≠ key := fun e => hx (e ▸ hk)
        simp [setEntry, hx, hk, h]
      · simp [setEntry, hx, hk, ih]

@[simp] theorem get?_set (r : Record) (key k : String) (value : Value) :
    (r.set key value).get? k = if k = key then some value else r.get? k :=
  get?_setEntry key k value r.entries

end Record

/-- A value that is no record was asked for something that only a record has. -/
structure NotRecord where
  kind : String
  asked : String
  deriving DecidableEq

def NotRecord.message (e : NotRecord) : String :=
  "'" ++ e.kind ++ "' object has no attribute '" ++ e.asked ++ "'"

namespace Value

/-- The record that a value is, which is asked for one thing. -/
def asRecord (asked : String) : Value → Except NotRecord Record
  | map entries => .ok ⟨entries⟩
  | v => .error ⟨v.kindName, asked⟩

/-- The value under a name in a bundle of values, null if there is none. -/
def entry (bundle : Value) (name : String) : Except NotRecord Value :=
  (bundle.asRecord "get").map (·.get name)

@[simp] theorem entry_toValue (r : Record) (name : String) :
    r.toValue.entry name = .ok (r.get name) :=
  rfl

end Value

end DotBinding

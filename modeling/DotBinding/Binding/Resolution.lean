import DotBinding.Text.Quoted
import DotBinding.Value.Record

/-!
# Resolutions

The records that a value stands for.
-/

namespace DotBinding

/-- The records of a name: a single record, or a list with at least one. -/
inductive Resolution where
  | one (record : Record)
  | many (first : Record) (rest : List Record)

def Resolution.records : Resolution → List Record
  | one r => [r]
  | many first rest => first :: rest

/-- A value that stands for no records: neither a record, a list of records nor null, or a list with
an item that is neither a record nor null. -/
inductive BindingError where
  | value (name : String) (found : Value)
  | item (name : String) (found : Value)

namespace BindingError

/-- The name that the value was found for. -/
def name : BindingError → String
  | value name _ | item name _ => name

def message : BindingError → String
  | value name found =>
    "The values for " ++ Text.quoted name ++ " resolved to " ++ found.kindName ++
      "; expected a record, a list of records or None"
  | item name found =>
    "The values for " ++ Text.quoted name ++ " contain " ++ found.kindName ++
      " items; expected records (mappings)"

end BindingError

namespace Resolution

/-- The records among the items of a list. Nulls are passed over. -/
def recordsOf (name : String) : List Value → Except BindingError (List Record)
  | [] => .ok []
  | .null :: rest => recordsOf name rest
  | .map entries :: rest => (recordsOf name rest).map (⟨entries⟩ :: ·)
  | v :: _ => .error (.item name v)

/-- What a value resolves a name to. Null, an empty record and a list without records are absent. -/
def ofValue (name : String) : Value → Except BindingError (Option Resolution)
  | .null => .ok none
  | .map entries => .ok (if entries.isEmpty then none else some (one ⟨entries⟩))
  | .list items | .tuple items =>
    (recordsOf name items).map fun
      | [] => none
      | first :: rest => some (many first rest)
  | v => .error (.value name v)

end Resolution

end DotBinding

import DotBinding.Binary64.Basic

/-!
# Values

The values that data is made of.
-/

namespace DotBinding

/-- A value. Lists and tuples hold values in order, and a map holds its entries in the order in
which its keys were first set; its keys are nearly always texts. -/
inductive Value where
  | null
  | bool (b : Bool)
  | int (n : Int)
  | float (x : Binary64)
  | text (s : String)
  | list (items : List Value)
  | tuple (items : List Value)
  | map (entries : List (Value × Value))
  deriving Inhabited

namespace Value

/-- What messages call a value of this kind. -/
def kindName : Value → String
  | null => "NoneType"
  | bool _ => "bool"
  | int _ => "int"
  | float _ => "float"
  | text _ => "str"
  | list _ => "list"
  | tuple _ => "tuple"
  | map _ => "dict"

def isNull : Value → Bool
  | null => true
  | _ => false

/-- Whether a value is this text. -/
def isText (s : String) : Value → Bool
  | text t => t == s
  | _ => false

/-- Whether a value is some text. -/
def isAnyText : Value → Bool
  | text _ => true
  | _ => false

/-- Whether a value counts as nothing: null, false, zero, and whatever is empty. -/
def isBlank : Value → Bool
  | null => true
  | bool b => !b
  | int n => n == 0
  | float x => x.isZero
  | text s => s == ""
  | list items | tuple items => items.isEmpty
  | map entries => entries.isEmpty

/-- A value, or an empty map in place of one that counts as nothing. -/
def orEmpty (v : Value) : Value :=
  if v.isBlank then map [] else v

/-- Whether a value holds other values. -/
def isNested : Value → Bool
  | list _ | tuple _ | map _ => true
  | _ => false

/-- The items of a list or a tuple. -/
def items? : Value → Option (List Value)
  | list xs | tuple xs => some xs
  | _ => none

@[simp] theorem orEmpty_map (entries : List (Value × Value)) :
    (map entries).orEmpty = map entries := by
  cases entries <;> rfl

@[simp] theorem isText_text (s t : String) : isText s (text t) = true ↔ t = s := by
  simp [isText]

theorem isText_iff {s : String} {v : Value} : v.isText s = true ↔ v = text s := by
  cases v <;> simp [isText]

theorem isAnyText_iff {v : Value} : v.isAnyText = true ↔ ∃ s, v = text s := by
  cases v <;> simp [isAnyText]

@[simp] theorem isNull_iff {v : Value} : v.isNull = true ↔ v = null := by
  cases v <;> simp [isNull]

end Value

end DotBinding

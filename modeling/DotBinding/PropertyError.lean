import DotBinding.Json.Writer
import DotBinding.Value.Record
import DotBinding.Violation

/-!
# Refused properties

Why values are refused as the properties of a node.
-/

namespace DotBinding

inductive PropertyError where
  /-- What has to be stored is no record. -/
  | notRecord (e : NotRecord)
  /-- Something inside has no JSON text. -/
  | json (e : Json.WriteError)
  /-- The label cannot be written. -/
  | label
  /-- What has to be described is no map. -/
  | notMap (found : Value)
  /-- These keys of what has to be described are not texts. -/
  | foreignKeys (keys : List Value)

namespace PropertyError

/-- A key as a step of a path. The truth values count as the numbers that they stand for. -/
def keyStep : Value → String
  | .bool true => "1"
  | .bool false => "0"
  | v => Violation.shown v

def message : PropertyError → String
  | notRecord e => e.message
  | json e => e.message
  | label => Value.tooLongMessage
  | notMap found => Violation.report "NodeDescriptor" [⟨["props"], .map, found⟩]
  | foreignKeys keys =>
    Violation.report "NodeDescriptor" (keys.map fun k => ⟨["props", keyStep k, "[key]"], .text, k⟩)

/-- The name under which an error is reported. -/
def name : PropertyError → String
  | notRecord _ => "AttributeError"
  | json (.key _) => "TypeError"
  | json .tooLong | label => "ValueError"
  | notMap _ | foreignKeys _ => "ValidationError"

/-- What keeps a record from being described: keys that are not texts. -/
def ofKeys? (r : Record) : Option PropertyError :=
  match r.foreignKeys with
  | [] => none
  | keys => some (.foreignKeys keys)

theorem ofKeys?_eq_none_iff {r : Record} :
    ofKeys? r = none ↔ ∀ e ∈ r.entries, ∃ s, e.1 = .text s := by
  rw [← Record.foreignKeys_eq_nil_iff, ofKeys?]
  split <;> simp_all

end PropertyError

end DotBinding

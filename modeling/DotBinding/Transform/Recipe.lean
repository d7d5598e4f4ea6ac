import DotBinding.Transform.Basic

/-!
# Recipes

Record functions described by data.
-/

namespace DotBinding

inductive Recipe where
  /-- The argument. -/
  | identity
  /-- One value for every argument. -/
  | const (value : Value)
  /-- The value under a key. -/
  | get (key : String)
  /-- A record with a key set. -/
  | set (key : String) (value : Value)
  /-- A record of other keys: each pair is a new key and the key that its value is under. -/
  | rename (fields : List (String × String))
  /-- Numbered copies of a record. -/
  | copies (count : Nat) (key : String)
  /-- A record that holds the argument. -/
  | box (key : String)
  /-- A record that has a value under a key, and null in place of any other. -/
  | require (key : String)
  /-- No result. -/
  | fail (message : String)

namespace Recipe

def name : Recipe → String
  | identity => "identity"
  | const _ => "const"
  | get _ => "get"
  | set _ _ => "set"
  | rename _ => "rename"
  | copies _ _ => "repeat"
  | box _ => "box"
  | require _ => "require"
  | fail _ => "fail"

def renameField (r : Record) (field : String × String) : Except Failure (String × Value) :=
  match r.get? field.2 with
  | some v => .ok (field.1, v)
  | none => .error (.missingKey field.2)

def numbered (count : Nat) (key : String) (r : Record) : List Value :=
  (List.range count).map fun (i : Nat) => (r.set key (.int i)).toValue

/-- What a recipe makes of a record. -/
def onRecord (r : Record) : Recipe → Except Failure Value
  | identity => .ok r.toValue
  | const v => .ok v
  | get key => .ok (r.get key)
  | set key v => .ok (r.set key v).toValue
  | rename fields =>
    (fields.mapM (renameField r)).map fun pairs =>
      (pairs.foldl (fun out p => out.set p.1 p.2) Record.empty).toValue
  | copies count key => .ok (.list (numbered count key r))
  | box key => .ok (.map [(.text key, r.toValue)])
  | require key => .ok (if (r.get key).isNull then .null else r.toValue)
  | fail message => .error (.rejected message)

/-- What a recipe makes of a value that is no record. -/
def onOther (v : Value) : Recipe → Except Failure Value
  | identity | set _ _ => .ok v
  | const w => .ok w
  | get _ | rename _ | copies _ _ | require _ => .ok .null
  | box key => .ok (.map [(.text key, v)])
  | fail message => .error (.rejected message)

def toFunction (recipe : Recipe) : RecordFunction where
  name := recipe.name
  apply
    | .map entries => recipe.onRecord ⟨entries⟩
    | v => recipe.onOther v

end Recipe

end DotBinding

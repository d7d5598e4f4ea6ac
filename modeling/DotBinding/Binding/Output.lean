import DotBinding.Binding.Diagnostic
import DotBinding.Binding.Resolution
import DotBinding.PropertyError
import DotBinding.Transform.Basic

/-!
# Outputs

Output in the making: statements and gaps in order. Outputs are joined one after the other, and
nothing is added behind an error.
-/

namespace DotBinding

/-- Both sides of a relationship are several records, so that it is open which of them belong
together. -/
structure CardinalityError where
  left : String
  right : String
  chain : List String
  leftCount : Nat
  rightCount : Nat
  deriving DecidableEq

def CardinalityError.message (e : CardinalityError) : String :=
  "Both the left and the right side of " ++ e.left ++ " -> " ++ e.right ++ " in " ++
    " -> ".intercalate e.chain ++ " are multiple nodes (left: " ++ e.leftCount.repr ++
    ", right: " ++ e.rightCount.repr ++ ")"

/-- Why a binding failed. -/
inductive BindFailure where
  | shape (e : BindingError)
  | cardinality (e : CardinalityError)
  | function (e : Failure)
  /-- What is bound has no names to look up. -/
  | values (e : NotRecord)
  | properties (e : PropertyError)

/-- Statements and gaps, and the error behind the last of them if there was one. -/
structure Output (σ : Type) where
  statements : List σ
  diagnostics : List Diagnostic
  failure? : Option BindFailure

namespace Output

variable {σ τ : Type}

def empty : Output σ :=
  ⟨[], [], none⟩

def ofStatements (statements : List σ) : Output σ :=
  ⟨statements, [], none⟩

def gaps (diagnostics : List Diagnostic) : Output σ :=
  ⟨[], diagnostics, none⟩

def fail (e : BindFailure) : Output σ :=
  ⟨[], [], some e⟩

/-- One output behind another. -/
def andThen (a b : Output σ) : Output σ :=
  match a.failure? with
  | some _ => a
  | none => ⟨a.statements ++ b.statements, a.diagnostics ++ b.diagnostics, b.failure?⟩

/-- Outputs one after the other. -/
def join (parts : List (Output σ)) : Output σ :=
  parts.foldr andThen empty

def map (f : σ → τ) (a : Output σ) : Output τ :=
  ⟨a.statements.map f, a.diagnostics, a.failure?⟩

/-- The statements and gaps, unless there was an error. -/
def result (a : Output σ) : Except BindFailure (List σ × List Diagnostic) :=
  match a.failure? with
  | some e => .error e
  | none => .ok (a.statements, a.diagnostics)

@[simp] theorem empty_andThen (a : Output σ) : empty.andThen a = a :=
  rfl

@[simp] theorem andThen_empty (a : Output σ) : a.andThen empty = a := by
  obtain ⟨statements, diagnostics, failure⟩ := a
  cases failure <;> simp [andThen, empty]

@[simp] theorem join_nil : join ([] : List (Output σ)) = empty :=
  rfl

@[simp] theorem join_cons (a : Output σ) (rest : List (Output σ)) :
    join (a :: rest) = a.andThen (join rest) :=
  rfl

@[simp] theorem failure?_andThen (a b : Output σ) :
    (a.andThen b).failure? = a.failure?.or b.failure? := by
  obtain ⟨_, _, f⟩ := a
  cases f <;> rfl

@[simp] theorem failure?_join (parts : List (Output σ)) :
    (join parts).failure? = parts.findSome? (·.failure?) := by
  induction parts with
  | nil => rfl
  | cons a rest ih =>
    rw [join_cons, failure?_andThen, ih, List.findSome?_cons]
    cases a.failure? <;> rfl

theorem statements_andThen {a : Output σ} (h : a.failure? = none) (b : Output σ) :
    (a.andThen b).statements = a.statements ++ b.statements := by
  rw [andThen, h]

theorem statements_join {parts : List (Output σ)} (h : ∀ a ∈ parts, a.failure? = none) :
    (join parts).statements = parts.flatMap (·.statements) := by
  induction parts with
  | nil => rfl
  | cons a rest ih =>
    obtain ⟨ha, hrest⟩ := List.forall_mem_cons.1 h
    rw [join_cons, statements_andThen ha, ih hrest, List.flatMap_cons]

theorem diagnostics_andThen {a : Output σ} (h : a.failure? = none) (b : Output σ) :
    (a.andThen b).diagnostics = a.diagnostics ++ b.diagnostics := by
  rw [andThen, h]

theorem diagnostics_join {parts : List (Output σ)} (h : ∀ a ∈ parts, a.failure? = none) :
    (join parts).diagnostics = parts.flatMap (·.diagnostics) := by
  induction parts with
  | nil => rfl
  | cons a rest ih =>
    obtain ⟨ha, hrest⟩ := List.forall_mem_cons.1 h
    rw [join_cons, diagnostics_andThen ha, ih hrest, List.flatMap_cons]

theorem result_eq_ok_iff {a : Output σ} {statements : List σ} {diagnostics : List Diagnostic} :
    a.result = .ok (statements, diagnostics) ↔
      a.failure? = none ∧ a.statements = statements ∧ a.diagnostics = diagnostics := by
  rw [result]
  cases a.failure? <;> simp

theorem result_eq_error_iff {a : Output σ} {e : BindFailure} :
    a.result = .error e ↔ a.failure? = some e := by
  rw [result]
  cases a.failure? <;> simp

@[simp] theorem map_empty (f : σ → τ) : (empty : Output σ).map f = empty :=
  rfl

@[simp] theorem map_gaps (f : σ → τ) (diagnostics : List Diagnostic) :
    (gaps diagnostics).map f = gaps diagnostics :=
  rfl

@[simp] theorem map_fail (f : σ → τ) (e : BindFailure) : (fail e).map f = fail e :=
  rfl

@[simp] theorem map_andThen (f : σ → τ) (a b : Output σ) :
    (a.andThen b).map f = (a.map f).andThen (b.map f) := by
  obtain ⟨_, _, e⟩ := a
  cases e <;> simp [map, andThen]

theorem map_join (f : σ → τ) (parts : List (Output σ)) :
    (join parts).map f = join (parts.map (·.map f)) := by
  induction parts with
  | nil => rfl
  | cons a rest ih => simp [ih]

end Output

end DotBinding

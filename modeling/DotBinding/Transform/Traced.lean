import DotBinding.Value.Basic

/-!
# Traced computations

Computations that call record functions, with the calls that they made.
-/

namespace DotBinding

/-- One call of a record function. -/
structure Call where
  function : String
  argument : Value

/-- A result, or an error, and the calls made on the way to it, in order. -/
structure Traced (ε α : Type) where
  calls : List Call
  result : Except ε α

namespace Traced

variable {ε ε' α β : Type}

/-- A result that no call was made for. -/
def ofExcept (result : Except ε α) : Traced ε α :=
  ⟨[], result⟩

def pure (a : α) : Traced ε α :=
  ofExcept (.ok a)

/-- Goes on with the result. An error ends the computation and keeps the calls made so far. -/
def bind (t : Traced ε α) (f : α → Traced ε β) : Traced ε β :=
  match t.result with
  | .ok a => ⟨t.calls ++ (f a).calls, (f a).result⟩
  | .error e => ⟨t.calls, .error e⟩

def map (f : α → β) (t : Traced ε α) : Traced ε β :=
  ⟨t.calls, t.result.map f⟩

def mapError (f : ε → ε') (t : Traced ε α) : Traced ε' α :=
  ⟨t.calls, t.result.mapError f⟩

/-- Checks a result without calling anything. -/
def check (f : α → Except ε β) (t : Traced ε α) : Traced ε β :=
  ⟨t.calls, t.result.bind f⟩

/-- Runs a computation on each item in order, up to the first error. -/
def each (f : α → Traced ε β) : List α → Traced ε (List β)
  | [] => pure []
  | a :: rest => (f a).bind fun b => (each f rest).map (b :: ·)

end Traced

end DotBinding

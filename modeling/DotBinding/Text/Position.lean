/-!
# Places in a text

Places in a text.
-/

namespace DotBinding

/-- A place in a text: its line and its column, both counted from 1. Only a line feed starts a
line, and a column is one code point. -/
structure Position where
  line : Nat
  col : Nat
  deriving DecidableEq

namespace Position

def start : Position :=
  ⟨1, 1⟩

/-- The place behind one character. -/
def next (p : Position) (c : Char) : Position :=
  if c = '\n' then ⟨p.line + 1, 1⟩ else ⟨p.line, p.col + 1⟩

/-- The place behind a piece of text. -/
def after (p : Position) (cs : List Char) : Position :=
  cs.foldl next p

@[simp] theorem after_nil (p : Position) : p.after [] = p :=
  rfl

@[simp] theorem after_append (p : Position) (a b : List Char) :
    p.after (a ++ b) = (p.after a).after b :=
  List.foldl_append

theorem line_after (p : Position) (cs : List Char) :
    (p.after cs).line = p.line + cs.count '\n' := by
  induction cs generalizing p with
  | nil => rfl
  | cons c cs ih =>
    show ((p.next c).after cs).line = _
    rw [ih, List.count_cons]
    by_cases h : c = '\n'
    · simp [next, h]
      omega
    · simp [next, h]

end Position

end DotBinding

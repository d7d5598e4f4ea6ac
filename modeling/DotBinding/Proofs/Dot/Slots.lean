import DotBinding.Proofs.Dot.Reading

/-!
# A place for attributes

Behind the first attributes of a list, whatever they are, the same texts can be read, and the graphs
differ in these attributes alone: they stand in one list of one statement. A slot is all the rest of
the graphs.
-/

namespace DotBinding.Dot

/-- A statement with a place for attributes in one of its lists, or in a statement inside it. -/
inductive StatementSlot where
  | here (head : Head) (before after : List Attribute)
  | inside (name : String) (before : List Statement) (slot : StatementSlot)
    (after : List Statement)

def StatementSlot.fill (new : List Attribute) : StatementSlot → Statement
  | here head before after => head.statement (before ++ new ++ after)
  | inside name before slot after => .subgraph name (before ++ slot.fill new :: after)

/-- Graphs with a place for attributes in a statement of one of them. -/
structure Slot where
  earlier : List Graph
  header : Header
  before : List Statement
  statement : StatementSlot
  after : List Statement
  later : List Graph

namespace Slot

def fill (slot : Slot) (new : List Attribute) : List Graph :=
  slot.earlier ++ ⟨slot.header.kind, slot.header.name, slot.header.strict,
    slot.before ++ slot.statement.fill new :: slot.after⟩ :: slot.later

/-- A slot with more graphs in front. -/
def behind (graphs : List Graph) (slot : Slot) : Slot :=
  { slot with earlier := graphs ++ slot.earlier }

end Slot

/-! ## What can follow some attributes -/

/-- Whether what can follow some attributes can follow any others, with the graphs the same but for
these attributes. -/
def Slotted (P : List Attribute → List Graph → Prop) : Prop :=
  ∀ new graphs, P new graphs →
    ∃ slot : Slot, graphs = slot.fill new ∧ ∀ other, P other (slot.fill other)

lemma Slotted.and {Q : Prop} {P : List Attribute → List Graph → Prop} (h : Slotted P) :
    Slotted fun new graphs => Q ∧ P new graphs := by
  rintro new graphs ⟨hQ, hP⟩
  obtain ⟨slot, hslot, hother⟩ := h new graphs hP
  exact ⟨slot, hslot, fun other => ⟨hQ, hother other⟩⟩

namespace Expected

variable (blocks : Blocks) (head : Head) (before after : List Attribute) (items : List Lexeme)

end Expected

/-! ## Reading on behind attributes -/

end DotBinding.Dot

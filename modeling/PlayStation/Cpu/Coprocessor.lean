/-
  The four places for a COPROCESSOR.

  Place 0 holds system control and place 2 the geometry engine.  The other two are empty; a program
  can still name them.
-/

namespace PlayStation

/-- A place for a coprocessor. -/
inductive Coprocessor where
  | zero
  | one
  | two
  | three
deriving DecidableEq, Repr, Inhabited

namespace Coprocessor

/-- The number by which an instruction and the status register name the place. -/
def number : Coprocessor → UInt32
  | .zero => 0
  | .one => 1
  | .two => 2
  | .three => 3

/-- The place that the low two bits of a word name. -/
def ofBits (word : UInt32) : Coprocessor :=
  match (word &&& 3).toNat with
  | 0 => .zero
  | 1 => .one
  | 2 => .two
  | _ => .three

@[simp] theorem ofBits_number (c : Coprocessor) : ofBits c.number = c := by
  cases c <;> rfl

end Coprocessor

end PlayStation

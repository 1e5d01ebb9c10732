/-
  A DELAY SLOT: an effect that becomes visible one step late.

    schedule          start of the next step      end of that step
    idle ---------> pending -----------------> commit -------------> idle

  Every general register has one, for loads; the program counter has one, for branches.
-/

namespace PlayStation

/-- How far a delayed effect has come. -/
inductive SlotStage where
  | idle
  | pending
  | commit
deriving DecidableEq, Repr, Inhabited

/-- A value on its way. -/
structure DelaySlot where
  value : UInt32 := 0
  stage : SlotStage := .idle
deriving DecidableEq, Repr, Inhabited

namespace DelaySlot

/-- Puts a value on its way, in place of the one that may have been. -/
def schedule (value : UInt32) : DelaySlot := ⟨value, .pending⟩

/-- Moves one step on: what was pending is due now, and what was due is past. -/
@[inline] def age (s : DelaySlot) : DelaySlot :=
  match s.stage with
  | .idle => s
  | .pending => { s with stage := .commit }
  | .commit => { s with stage := .idle }

/-- Nothing is on its way any more; the last value can still be inspected. -/
def cancel (s : DelaySlot) : DelaySlot := { s with stage := .idle }

/-- The value is due in this step. -/
@[inline] def isDue (s : DelaySlot) : Bool := s.stage == .commit

/-- The value that is due in this step, if one is. -/
def due? (s : DelaySlot) : Option UInt32 := if s.isDue then some s.value else none

end DelaySlot

end PlayStation

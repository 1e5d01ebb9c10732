/-
  Setting the PROGRAM COUNTER between two steps.

  The situation behind a branch is kept in two places: the slot in which the target waits, and the
  mark that the last instruction was a branch.  `Cpu.setPc` empties the slot and leaves the mark.

  So the next step executes at the address that was set and goes on to the word behind it, wherever
  the branch wanted to go.  But it takes its address for that of a delay slot if the step before it
  left a mark, which it does just if it executed a control transfer other than a branch on a true
  condition.  An exception in it then returns to the word in front of the address, where there is
  no branch (`step_setPc`, `mark_kept`).
-/
import PlayStation.Proofs.Cpu.BranchDelay
import PlayStation.Proofs.Cpu.DelaySlotMark

namespace PlayStation

namespace Cpu

variable {β : Type} [Bus β]

/-- **The step behind a program counter that was set** begins at its address, and no branch is due
in it.  The mark of the step before is still there, though: if that step executed an instruction
that transfers control, an exception is taken as in a delay slot. -/
theorem step_setPc (cpu : Cpu) (a : UInt32) (bus : β) :
    let sent := cpu.setPc a
    (sent.step bus).state.1.currentPc = a ∧
    (sent.step bus).state.1.inDelaySlot = cpu.branched ∧
    (∀ i action bus', sent.course bus = (.ok (i, action), bus') →
      ∃ next, sent.step bus = .done (next, bus') ∧
        ((∀ t, action ≠ .trap t) → next.pc = a + 4) ∧
        ∀ t, action = .trap t → Entered t sent next ∧
          next.system.branchDelay = cpu.branched ∧
          next.system.epc = if cpu.branched then a - 4 else a) ∧
    ∀ (before : Cpu) (earlier : β) (now : β),
      before.step earlier = .done (cpu, now) → (cpu.branched = true ↔ before.Marks earlier) := by
  intro sent
  refine ⟨currentPc_step sent bus, inDelaySlot_step sent bus, ?_, ?_⟩
  · intro i action bus' hcourse
    refine ⟨sent.after i action, step_of_course hcourse, TwoCounters.pc_after sent i, ?_⟩
    rintro t rfl
    have hentered := entered_after sent i t
    exact ⟨hentered, hentered.branchDelay, hentered.epc⟩
  · intro before earlier now hstep
    exact branched_step_iff hstep

/-! ## A system call that is set behind a branch -/

/-- A branch in RAM, and a system call some way off. -/
def callElsewhere : Memory :=
  (Memory.blank.setRamWord 0x80010000 0x10000003).setRamWord 0x80020000 0x0000000C

theorem ramWord_branch : callElsewhere.ramWord 0x80010000 = 0x10000003 := by
  rw [callElsewhere, Memory.ramWord_setRamWord_of_ne _ (by decide), Memory.ramWord_setRamWord_self]

theorem ramWord_call : callElsewhere.ramWord 0x80020000 = 0x0000000C := by
  rw [callElsewhere, Memory.ramWord_setRamWord_self]

/-- The processor behind the branch. -/
def behindBranch : Cpu := atCall.after ⟨0x10000003⟩ (.branch none (some 0x80010010))

theorem course_branch : atCall.course callElsewhere =
    (.ok (⟨0x10000003⟩, .branch none (some 0x80010010)), callElsewhere) := by
  have heffect : (atCall.fetched ⟨0x10000003⟩).effect ⟨0x10000003⟩ =
      .branch none (some 0x80010010) := by decide
  have hword : callElsewhere.ramWord atCall.pc = 0x10000003 := ramWord_branch
  refine course_ram (by decide) (by decide) (by decide) hword ?_
  rw [heffect]
  rfl

/-- **The mark outlives the branch.**  A branch is executed and the program counter is then set to
the system call, which is entered at once; yet it is taken for the delay slot of a branch that would
stand in front of it. -/
theorem mark_kept : ∃ cpu raised,
    atCall.step callElsewhere = .done (cpu, callElsewhere) ∧
    (cpu.setPc 0x80020000).step callElsewhere = .done (raised, callElsewhere) ∧
    raised.currentPc = 0x80020000 ∧ raised.system.exceptionCode = ExceptionCause.syscall.code ∧
    raised.inDelaySlot = true ∧ raised.system.branchDelay = true ∧
    raised.system.epc = 0x8001FFFC := by
  have hword : callElsewhere.ramWord (behindBranch.setPc 0x80020000).pc = 0x0000000C :=
    ramWord_call
  have hcall : (behindBranch.setPc 0x80020000).course callElsewhere =
      (.ok (⟨0x0000000C⟩, .trap { cause := .syscall }), callElsewhere) :=
    course_ram (by decide) (by decide) (by decide) hword rfl
  exact ⟨behindBranch, _, step_of_course course_branch, step_of_course hcall, by decide, by decide,
    by decide, by decide, by decide⟩

end Cpu

end PlayStation

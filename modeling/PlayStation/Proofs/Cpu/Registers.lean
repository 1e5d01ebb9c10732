/-
  What a step does to the GENERAL REGISTERS.

  Registers are written in two ways.  A write at once changes a register and calls off a load that
  is due for it; a late write puts a load on its way.  No action does both, and most do neither:
  `Action.write?` and `Action.load?` say which register an action writes in which way.  Register 0
  is never among them.

  With the value that a slot has on its way (`DelaySlot.pending?`) the whole story of a register is
  told by two equations about the state behind a step, whatever the state in front of it was:

    the register   what the action wrote, or else what was on its way and the action did not
                   load anew, or else what was there                        (`regs_after`)
    its slot       what the action loaded                                   (`pending_after`)
-/
import PlayStation.Proofs.Cpu.Course

namespace PlayStation

/-! ## Slots and assignments -/

/-- The value that is on its way and not yet due, if one is. -/
def DelaySlot.pending? (s : DelaySlot) : Option UInt32 :=
  if s.stage = .pending then some s.value else none

/-- Nothing is on its way in a slot that is not pending. -/
theorem DelaySlot.pending?_eq_none_iff {s : DelaySlot} : s.pending? = none ↔ s.stage ≠ .pending := by
  unfold pending?
  split
  · next h => exact iff_of_false nofun (not_not_intro h)
  · next h => exact iff_of_true rfl h

/-- What was on its way is due one step later. -/
theorem DelaySlot.due?_age (s : DelaySlot) : s.age.due? = s.pending? := by
  obtain ⟨value, stage⟩ := s
  cases stage <;> rfl

/-- A slot that has aged has nothing on its way. -/
theorem DelaySlot.pending?_age (s : DelaySlot) : s.age.pending? = none := by
  obtain ⟨value, stage⟩ := s
  cases stage <;> rfl

/-- A value for a register; register 0 takes none. -/
def assignment (r : Reg) (value : UInt32) : Option (Reg × UInt32) :=
  if r.val = 0 then none else some (r, value)

/-- The value that an assignment has for a register. -/
def valueFor (q : Reg) : Option (Reg × UInt32) → Option UInt32
  | none => none
  | some (r, value) => if r = q then some value else none

/-- What an action writes at once. -/
def Action.write? : Action → Option (Reg × UInt32)
  | .write r value => assignment r value
  | .branch (some (r, address)) _ => assignment r address
  | _ => none

/-- What an action writes one step late. -/
def Action.load? : Action → Option (Reg × UInt32)
  | .writeLater r value => assignment r value
  | _ => none

namespace Cpu

/-! ## Frames -/

/-- A write at once touches registers and load slots only. -/
theorem setReg_eq (cpu : Cpu) (r : Reg) (value : UInt32) :
    cpu.setReg r value =
      { cpu with regs := (cpu.setReg r value).regs, loads := (cpu.setReg r value).loads } := by
  by_cases hzero : r.val = 0
  · simp only [setReg, if_pos hzero]
  by_cases hdue : (cpu.loads.entry r).isDue = true
  · simp only [setReg, if_neg hzero, if_pos hdue]
  · simp only [setReg, if_neg hzero, if_neg hdue]

/-- A late write touches load slots only. -/
theorem setRegLater_eq (cpu : Cpu) (r : Reg) (value : UInt32) :
    cpu.setRegLater r value = { cpu with loads := (cpu.setRegLater r value).loads } := by
  by_cases hzero : r.val = 0
  · simp only [setRegLater, if_pos hzero]
  · simp only [setRegLater, if_neg hzero]

/-! ## The two writes -/

theorem regs_setReg (cpu : Cpu) (r q : Reg) (value : UInt32) :
    (cpu.setReg r value).regs.entry q =
      (valueFor q (assignment r value)).getD (cpu.regs.entry q) := by
  by_cases hzero : r.val = 0
  · rw [setReg, if_pos hzero, assignment, if_pos hzero]
    rfl
  have hregs : (cpu.setReg r value).regs = cpu.regs.put r value := by
    rw [setReg, if_neg hzero]
    split <;> rfl
  rw [hregs, assignment, if_neg hzero, valueFor]
  by_cases hq : r = q
  · rw [if_pos hq, ← hq, Table.entry_put_self]
    rfl
  · rw [if_neg hq, Table.entry_put_of_ne _ _ hq]
    rfl

/-- A register behind a write. -/
theorem reg_setReg (cpu : Cpu) (r q : Reg) (value : UInt32) :
    (cpu.setReg r value).reg q = if q = r ∧ r.val ≠ 0 then value else cpu.reg q := by
  by_cases hzero : r.val = 0
  · rw [setReg, if_pos hzero, if_neg fun h => h.2 hzero]
  rw [reg, reg, regs_setReg, assignment, if_neg hzero, valueFor]
  by_cases hq : q = r
  · subst hq
    rw [if_neg hzero, if_pos rfl, if_pos ⟨rfl, hzero⟩]
    rfl
  · have hother : ¬(q = r ∧ r.val ≠ 0) := fun h => hq h.1
    rw [if_neg (Ne.symm hq), if_neg hother]
    rfl

/-- A write at once leaves nothing due for its register. -/
theorem due?_setReg (cpu : Cpu) (r q : Reg) (value : UInt32) :
    ((cpu.setReg r value).loads.entry q).due? =
      if (valueFor q (assignment r value)).isSome then none else (cpu.loads.entry q).due? := by
  by_cases hzero : r.val = 0
  · rw [setReg, if_pos hzero, assignment, if_pos hzero]
    rfl
  rw [setReg, if_neg hzero, assignment, if_neg hzero, valueFor]
  by_cases hdue : (cpu.loads.entry r).isDue = true
  · rw [if_pos hdue]
    by_cases hq : r = q
    · rw [if_pos hq, ← hq, Table.entry_put_self]
      rfl
    · rw [if_neg hq, Table.entry_put_of_ne _ _ hq]
      rfl
  · rw [if_neg hdue]
    by_cases hq : r = q
    · rw [if_pos hq, ← hq]
      exact if_neg hdue
    · rw [if_neg hq]
      rfl

/-- A write at once puts nothing on its way and takes nothing off it. -/
theorem pending?_setReg (cpu : Cpu) (r q : Reg) (value : UInt32) :
    ((cpu.setReg r value).loads.entry q).pending? = (cpu.loads.entry q).pending? := by
  by_cases hzero : r.val = 0
  · rw [setReg, if_pos hzero]
  rw [setReg, if_neg hzero]
  by_cases hdue : (cpu.loads.entry r).isDue = true
  · rw [if_pos hdue]
    by_cases hq : r = q
    · have hstage : (cpu.loads.entry r).stage = .commit := eq_of_beq hdue
      rw [← hq, Table.entry_put_self, DelaySlot.pending?, DelaySlot.pending?, hstage]
      rfl
    · rw [Table.entry_put_of_ne _ _ hq]
  · rw [if_neg hdue]

/-- The slot of a late write holds the new value, the others what they held. -/
theorem loads_setRegLater (cpu : Cpu) (r q : Reg) (value : UInt32) :
    (cpu.setRegLater r value).loads.entry q =
      ((valueFor q (assignment r value)).map DelaySlot.schedule).getD (cpu.loads.entry q) := by
  by_cases hzero : r.val = 0
  · rw [setRegLater, if_pos hzero, assignment, if_pos hzero]
    rfl
  rw [setRegLater, if_neg hzero, assignment, if_neg hzero, valueFor]
  by_cases hq : r = q
  · rw [if_pos hq, ← hq, Table.entry_put_self]
    rfl
  · rw [if_neg hq, Table.entry_put_of_ne _ _ hq]
    rfl

/-! ## Actions -/

/-- Beside its return address a branch leaves the registers alone. -/
theorem regs_takeBranch (cpu : Cpu) (link : Option (Reg × UInt32)) (target : Option UInt32) :
    (cpu.takeBranch link target).regs = (cpu.act (.branch link none)).regs := by
  cases target <;> rfl

theorem loads_takeBranch (cpu : Cpu) (link : Option (Reg × UInt32)) (target : Option UInt32) :
    (cpu.takeBranch link target).loads = (cpu.act (.branch link none)).loads := by
  cases target <;> rfl

theorem regs_act (cpu : Cpu) (a : Action) (q : Reg) :
    (cpu.act a).regs.entry q = (valueFor q a.write?).getD (cpu.regs.entry q) := by
  cases a with
  | write r value => exact regs_setReg cpu r q value
  | writeLater r value => rw [act, setRegLater_eq]; rfl
  | branch link target =>
    rw [act, regs_takeBranch]
    cases link with
    | none => rfl
    | some link => exact regs_setReg cpu link.1 q link.2
  | _ => rfl

theorem due?_act (cpu : Cpu) (a : Action) (q : Reg) :
    ((cpu.act a).loads.entry q).due? =
      if (valueFor q a.write?).isSome || (valueFor q a.load?).isSome then none
      else (cpu.loads.entry q).due? := by
  cases a with
  | write r value =>
    show _ = if (valueFor q (assignment r value)).isSome || false then none else _
    rw [Bool.or_false]
    exact due?_setReg cpu r q value
  | writeLater r value =>
    show _ = if false || (valueFor q (assignment r value)).isSome then none else _
    rw [act, loads_setRegLater]
    cases valueFor q (assignment r value) <;> rfl
  | branch link target =>
    rw [act, loads_takeBranch]
    cases link with
    | none => rfl
    | some link =>
      show _ = if (valueFor q (assignment link.1 link.2)).isSome || false then none else _
      rw [Bool.or_false]
      exact due?_setReg cpu link.1 q link.2
  | _ => rfl

theorem pending?_act (cpu : Cpu) (a : Action) (q : Reg) :
    ((cpu.act a).loads.entry q).pending? =
      (valueFor q a.load?).or (cpu.loads.entry q).pending? := by
  cases a with
  | write r value => exact pending?_setReg cpu r q value
  | writeLater r value =>
    rw [act, loads_setRegLater]
    show _ = (valueFor q (assignment r value)).or _
    cases valueFor q (assignment r value) <;> rfl
  | branch link target =>
    rw [act, loads_takeBranch]
    cases link with
    | none => rfl
    | some link => exact pending?_setReg cpu link.1 q link.2
  | _ => rfl

/-- What a step notes when it begins: its address, and whether it sits in a delay slot. -/
def stamp (cpu : Cpu) : UInt32 × Bool := (cpu.currentPc, cpu.inDelaySlot)

/-- No action changes what was noted. -/
theorem stamp_act (cpu : Cpu) (a : Action) : (cpu.act a).stamp = cpu.stamp := by
  cases a with
  | write r value =>
    rw [act, setReg_eq]
    rfl
  | writeLater r value =>
    rw [act, setRegLater_eq]
    rfl
  | branch link target =>
    cases link with
    | none => cases target <;> rfl
    | some link =>
      cases target <;> simp only [act, takeBranch] <;> rw [setReg_eq] <;> rfl
  | _ => rfl

/-! ## A whole step -/

/-- A step runs at the address and with the mark that it finds. -/
theorem stamp_after (cpu : Cpu) (i : Instruction) (a : Action) :
    (cpu.after i a).stamp = (cpu.pc, cpu.branched) := by
  have hready : (cpu.ready i).stamp = (cpu.pc, cpu.branched) := by
    unfold ready redirect
    split <;> rfl
  exact (stamp_act (cpu.ready i) a).trans hready

theorem loads_ready (cpu : Cpu) (i : Instruction) :
    (cpu.ready i).loads = cpu.loads.map DelaySlot.age := by
  unfold ready redirect
  split <;> rfl

theorem regs_ready (cpu : Cpu) (i : Instruction) : (cpu.ready i).regs = cpu.regs := by
  unfold ready redirect
  split <;> rfl

/-- **A register behind a step** has what the action wrote.  Otherwise a value that was on its way
arrives, unless the action loads the register anew. -/
theorem regs_after (cpu : Cpu) (i : Instruction) (a : Action) (q : Reg) :
    (cpu.after i a).regs.entry q =
      match valueFor q a.write?, valueFor q a.load? with
      | some value, _ => value
      | none, some _ => cpu.regs.entry q
      | none, none => ((cpu.loads.entry q).pending?).getD (cpu.regs.entry q) := by
  have hretire : (cpu.after i a).regs.entry q =
      (((cpu.ready i).act a).loads.entry q).due?.getD (((cpu.ready i).act a).regs.entry q) := by
    show Table.entry (Vector.zipWith _ _ _) q = _
    rw [Table.entry_zipWith, DelaySlot.due?]
    split <;> rfl
  rw [hretire, due?_act, regs_act, loads_ready, regs_ready, Table.entry_map, DelaySlot.due?_age]
  cases valueFor q a.write? <;> cases valueFor q a.load? <;> rfl

/-- **A slot behind a step** has on its way what the action loaded, and nothing else. -/
theorem pending?_after (cpu : Cpu) (i : Instruction) (a : Action) (q : Reg) :
    ((cpu.after i a).loads.entry q).pending? = valueFor q a.load? := by
  have hretire : (cpu.after i a).loads = ((cpu.ready i).act a).loads := rfl
  rw [hretire, pending?_act, loads_ready, Table.entry_map, DelaySlot.pending?_age, Option.or_none]

/-- A register that an action does not write has what was on its way to it, or else what it had. -/
theorem reg_after (cpu : Cpu) (i : Instruction) {a : Action} {r : Reg}
    (hwrite : valueFor r a.write? = none) (hload : valueFor r a.load? = none) :
    (cpu.after i a).reg r =
      if r.val = 0 then 0 else ((cpu.loads.entry r).pending?).getD (cpu.reg r) := by
  rw [reg, regs_after, hwrite, hload]
  by_cases hzero : r.val = 0
  · rw [if_pos hzero, if_pos hzero]
  · rw [if_neg hzero, if_neg hzero, reg, if_neg hzero]

end Cpu

end PlayStation

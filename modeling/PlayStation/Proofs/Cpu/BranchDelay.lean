/-
  The BRANCH DELAY is a second program counter.

  The processor has one program counter and a slot in which a branch target waits.  The slot ages
  at the start of a step; a target that is due is taken up as the word in front of it, so that the
  increment at the end of the step lands on it.

  `TwoCounters` is the machine that this is meant to be: it has the address of the next instruction
  and the address of the one behind it, and no slot.  With each step it notes the address that it
  executes, which is its first counter.

    executing           pc, npc := npc, npc + 4
    a taken branch      pc, npc := npc, target
    an exception        pc, npc := handler, handler + 4

  1. **The view** (`TwoCounters.of`) reads the second counter off the slot: a pending target, or
     else the word behind the program counter (`Cpu.nextPc`).

  2. **One step** (`counters_after`): whatever action a step comes to, the view of the state behind
     it is the view in front of it, advanced.  The slot needs no invariant for this.  A slot that
     is found in its last stage has had its effect and counts as empty.

  3. **A run** follows by `Stepper.trace_simulation`: from every state, the processor goes where the
     machine with two counters goes.
-/
import PlayStation.Proofs.Cpu.Registers
import PlayStation.Proofs.Cpu.Run

namespace PlayStation

namespace Cpu

/-- The address of the instruction behind the next one. -/
def nextPc (cpu : Cpu) : UInt32 :=
  if cpu.branch.stage = .pending then cpu.branch.value else cpu.pc + 4

/-- The processor sent elsewhere. -/
def withFlow (cpu : Cpu) (pc : UInt32) (branch : DelaySlot) : Cpu := { cpu with pc, branch }

/-- Everything but where the processor goes: its program counter and branch slot are at rest. -/
def withoutFlow (cpu : Cpu) : Cpu := cpu.withFlow 0 {}

end Cpu

/-- A processor with two program counters. -/
structure TwoCounters where
  /-- The address of the next instruction. -/
  pc : UInt32
  /-- The address of the one behind it. -/
  npc : UInt32
  /-- The address of the instruction that was executed last. -/
  executed : UInt32
  /-- The registers and all else; program counter and branch slot in it are not used. -/
  datapath : Cpu

namespace TwoCounters

/-- Where an action sends the two counters; `handler` is where exceptions are handled. -/
def follow (m : TwoCounters) (handler : UInt32) : Action → UInt32 × UInt32
  | .trap _ => (handler, handler + 4)
  | .branch _ (some target) => (m.npc, target)
  | _ => (m.npc, m.npc + 4)

/-- The processor that executes the next instruction. -/
def processor (m : TwoCounters) : Cpu := { m.datapath with pc := m.pc }

/-- The registers and all else behind an action. -/
def behind (m : TwoCounters) (i : Instruction) (a : Action) : Cpu :=
  ((m.processor.fetched i).act a).retire

/-- The machine behind an action. -/
def advance (m : TwoCounters) (i : Instruction) (a : Action) : TwoCounters :=
  let (pc, npc) := m.follow (m.behind i a).system.handler a
  ⟨pc, npc, m.pc, (m.behind i a).withoutFlow⟩

variable {β : Type} [Bus β]

/-- One step: the instruction at the first counter is executed, and its action moves both. -/
def step (m : TwoCounters) (bus : β) : Outcome (TwoCounters × β) :=
  match m.processor.course bus with
  | (.ok (i, a), bus) => .done (m.advance i a, bus)
  | (.error fault, bus) => .stopped fault (m, bus)

/-- The machine with two counters, to be run. -/
def stepper (β : Type) [Bus β] : Stepper TwoCounters β where
  step := step
  driveLine m level := { m with datapath := m.datapath.driveLine level }

/-- The two counters of a processor with a branch slot. -/
def of (cpu : Cpu) : TwoCounters := ⟨cpu.pc, cpu.nextPc, cpu.currentPc, cpu.withoutFlow⟩

end TwoCounters

namespace Cpu

/-! ## Where an action goes -/

/-- A write does not care where the processor goes. -/
theorem setReg_withFlow (cpu : Cpu) (pc : UInt32) (branch : DelaySlot) (r : Reg) (value : UInt32) :
    (cpu.withFlow pc branch).setReg r value = (cpu.setReg r value).withFlow pc branch := by
  by_cases hzero : r.val = 0
  · simp [setReg, withFlow, hzero]
  by_cases hdue : (cpu.loads.entry r).isDue = true
  · simp [setReg, withFlow, hzero, hdue]
  · simp [setReg, withFlow, hzero, hdue]

/-- Nor does a late write. -/
theorem setRegLater_withFlow (cpu : Cpu) (pc : UInt32) (branch : DelaySlot) (r : Reg)
    (value : UInt32) :
    (cpu.withFlow pc branch).setRegLater r value =
      (cpu.setRegLater r value).withFlow pc branch := by
  by_cases hzero : r.val = 0
  · simp [setRegLater, withFlow, hzero]
  · simp [setRegLater, withFlow, hzero]

/-- What an instruction means does not depend on where the processor goes. -/
theorem effect_withFlow (cpu : Cpu) (pc : UInt32) (branch : DelaySlot) (i : Instruction) :
    (cpu.withFlow pc branch).effect i = cpu.effect i := rfl

/-- What an action does to all else does not depend on where the processor goes. -/
theorem withoutFlow_act (cpu : Cpu) (pc : UInt32) (branch : DelaySlot) (a : Action) :
    ((cpu.withFlow pc branch).act a).withoutFlow = (cpu.act a).withoutFlow := by
  cases a with
  | write r value =>
    rw [act, setReg_withFlow]
    rfl
  | writeLater r value =>
    rw [act, setRegLater_withFlow]
    rfl
  | branch link target =>
    cases link with
    | none => cases target <;> rfl
    | some link =>
      cases target <;> simp only [act, takeBranch, setReg_withFlow] <;> rfl
  | _ => rfl

/-- Where the processor goes behind an action. -/
theorem flow_act (cpu : Cpu) (a : Action) :
    ((cpu.act a).pc, (cpu.act a).branch) =
      match a with
      | .trap _ => ((cpu.act a).system.handler - 4, cpu.branch.cancel)
      | .branch _ (some target) => (cpu.pc, .schedule target)
      | _ => (cpu.pc, cpu.branch) := by
  cases a with
  | write r value => rw [act, setReg_eq]
  | writeLater r value => rw [act, setRegLater_eq]
  | branch link target =>
    cases link with
    | none => cases target <;> rfl
    | some link =>
      cases target <;> simp only [act, takeBranch] <;> rw [setReg_eq]
  | _ => rfl

/-! ## One step -/

/-- In front of an action the slot is empty, and the program counter stands one word in front of
the second counter. -/
theorem ready_eq (cpu : Cpu) (i : Instruction) :
    cpu.ready i = (cpu.fetched i).withFlow (cpu.nextPc - 4) cpu.branch.cancel := by
  obtain ⟨regs, hiLo, pc, currentPc, instruction, loads, ⟨value, stage⟩, inDelaySlot, branched,
    system, geometry, steps⟩ := cpu
  have hpc : pc = pc + 4 - 4 := (UInt32.add_sub_cancel pc 4).symm
  cases stage with
  | pending => rfl
  | _ =>
    show Cpu.mk .. = Cpu.mk _ _ (pc + 4 - 4) ..
    rw [← hpc]
    rfl

/-- Retiring does not mix where the processor goes with all else. -/
theorem withoutFlow_retire {p q : Cpu} (h : p.withoutFlow = q.withoutFlow) :
    p.retire.withoutFlow = q.retire.withoutFlow :=
  congrArg (fun cpu => cpu.retire.withoutFlow) h

end Cpu

namespace TwoCounters

variable {β : Type} [Bus β]

/-- What a step comes to depends on the first counter, and not on the slot. -/
theorem course_of (cpu : Cpu) (bus : β) : (of cpu).processor.course bus = cpu.course bus := by
  have heffect : ∀ i, ((of cpu).processor.fetched i).effect i = (cpu.fetched i).effect i :=
    fun i => Cpu.effect_withFlow (cpu.fetched i) cpu.pc (DelaySlot.age {}) i
  have hsettle : ∀ i (bus : β) e,
      ((of cpu).processor.fetched i).settle bus e = (cpu.fetched i).settle bus e :=
    fun i bus e => by cases e <;> rfl
  simp only [Cpu.course, heffect, hsettle]
  rfl

/-- All else is the same behind a step of either machine. -/
theorem withoutFlow_behind (cpu : Cpu) (i : Instruction) (a : Action) :
    ((of cpu).behind i a).withoutFlow = (cpu.after i a).withoutFlow := by
  apply Cpu.withoutFlow_retire
  rw [Cpu.ready_eq, Cpu.withoutFlow_act]
  exact Cpu.withoutFlow_act (cpu.fetched i) cpu.pc (DelaySlot.age {}) a

/-- **Any action moves the two counters** as the machine without a slot says. -/
theorem counters_after (cpu : Cpu) (i : Instruction) (a : Action) :
    ((cpu.after i a).pc, (cpu.after i a).nextPc) =
      (of cpu).follow (cpu.after i a).system.handler a := by
  have hback : ∀ w : UInt32, w - 4 + 4 = w := fun w => UInt32.sub_add_cancel w 4
  have hpc : (cpu.after i a).pc = ((cpu.ready i).act a).pc + 4 := rfl
  have hnext : (cpu.after i a).nextPc =
      if ((cpu.ready i).act a).branch.stage = .pending then ((cpu.ready i).act a).branch.value
      else (cpu.after i a).pc + 4 := rfl
  -- the slot in front of the action is empty, the counter one word in front of the second one
  have hready : (cpu.ready i).pc = cpu.nextPc - 4 := by rw [Cpu.ready_eq]; rfl
  have hempty : (cpu.ready i).branch = cpu.branch.cancel := by rw [Cpu.ready_eq]; rfl
  have hflow := Cpu.flow_act (cpu.ready i) a
  rw [hready, hempty] at hflow
  have hflowPc := congrArg Prod.fst hflow
  have hflowBranch := congrArg Prod.snd hflow
  dsimp only at hflowPc hflowBranch
  rw [hnext, hpc, hflowPc, hflowBranch]
  cases a with
  | branch link target =>
    cases target with
    | none => exact congrArg₂ Prod.mk (hback _) (congrArg (· + 4) (hback _))
    | some target => exact congrArg₂ Prod.mk (hback _) rfl
  | trap t => exact congrArg₂ Prod.mk (hback _) (congrArg (· + 4) (hback _))
  | _ => exact congrArg₂ Prod.mk (hback _) (congrArg (· + 4) (hback _))

/-- But for a trap, what comes next is the instruction that the second counter shows. -/
theorem pc_after (cpu : Cpu) (i : Instruction) {a : Action} (ha : ∀ t, a ≠ .trap t) :
    (cpu.after i a).pc = cpu.nextPc := by
  have hpc := congrArg Prod.fst (counters_after cpu i a)
  cases a with
  | trap t => exact absurd rfl (ha t)
  | branch link target => cases target <;> exact hpc
  | _ => exact hpc

/-- **One step**: the machine with two counters reaches the view of the state that the processor
reaches. -/
theorem advance_of (cpu : Cpu) (i : Instruction) (a : Action) :
    (of cpu).advance i a = of (cpu.after i a) := by
  have hbehind := withoutFlow_behind cpu i a
  have hsystem : ((of cpu).behind i a).system = (cpu.after i a).system := by
    have h := congrArg Cpu.system hbehind
    exact h
  have hexecuted : (of cpu).pc = (cpu.after i a).currentPc :=
    (congrArg Prod.fst (cpu.stamp_after i a)).symm
  rw [advance, hsystem, ← counters_after, hbehind, hexecuted]
  rfl

theorem step_alike (cpu : Cpu) (bus : β) :
    Stepper.Alike (fun cpu m => m = of cpu) (cpu.step bus) ((of cpu).step bus) := by
  rcases Cpu.step_cases cpu bus with ⟨i, a, bus', hcourse, hstep⟩ | ⟨fault, bus', s, hcourse, hstep⟩
  · rw [hstep, step, course_of, hcourse]
    exact ⟨rfl, rfl, fun _ => advance_of cpu i a⟩
  · rw [hstep, step, course_of, hcourse]
    exact ⟨rfl, rfl, fun h => nomatch h⟩

/-- The slot behind a step holds the target of the branch that it took, if it took one. -/
theorem branch_after (cpu : Cpu) (i : Instruction) (a : Action) :
    (cpu.after i a).branch =
      match a with
      | .branch _ (some target) => .schedule target
      | _ => cpu.branch.cancel := by
  have hempty : (cpu.ready i).branch = cpu.branch.cancel := by rw [Cpu.ready_eq]; rfl
  have hflow := congrArg Prod.snd (Cpu.flow_act (cpu.ready i) a)
  rw [hempty] at hflow
  cases a with
  | branch link target => cases target <;> exact hflow
  | _ => exact hflow

/-- No step leaves a target in its last stage. -/
theorem stage_after (cpu : Cpu) (i : Instruction) (a : Action) :
    (cpu.after i a).branch.stage ≠ .commit := by
  rw [branch_after]
  cases a with
  | branch link target => cases target <;> exact SlotStage.noConfusion
  | _ => exact SlotStage.noConfusion

/-- **The branch delay is a second program counter.**  Run the processor from any state, and beside
it the machine with two program counters, in the same world.  At every boundary between steps the
two have executed an instruction at the same address, go on at the same address, and the branch
slot, read as a second counter, is the second counter.  A target in its last stage is never
left behind. -/
theorem trace_twoCounters (cpu : Cpu) (bus : β) (script : List (Outside β)) :
    ((Cpu.stepper β).trace script cpu bus).map (fun s => (s.currentPc, s.pc, s.nextPc)) =
      ((stepper β).trace script (of cpu) bus).map (fun m => (m.executed, m.pc, m.npc)) ∧
    ∀ s ∈ (Cpu.stepper β).trace script cpu bus, s.branch.stage ≠ .commit := by
  constructor
  · rw [Stepper.trace_view (M := Cpu.stepper β) (fun _ _ => rfl) step_alike, List.map_map]
    rfl
  · apply Stepper.forall_mem_trace
    intro s bus s' bus' hstep
    obtain ⟨i, a, -, rfl⟩ := Cpu.course_of_step hstep
    exact stage_after s i a

end TwoCounters

end PlayStation

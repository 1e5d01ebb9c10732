/-
  The COURSE of a step: what it comes to, before anything is written.

  A step has to find out what to do (interrupt, fetch, decode, access to memory) and then to do it.
  `Cpu.course` is the first half and `Cpu.act` the second.  The course reads the processor and asks
  the bus; its answer is an `Action`, an effect in which no access to memory is left.  Acting on it
  needs no bus and cannot fail.

  1. **Settling** (`Cpu.settle`) replaces the access of an effect by its answer: a load becomes a
     write of the loaded value, an access that nothing answers becomes a trap.

  2. **The normal form** (`step_of_course`): a step is its course, acted on behind a taken-up
     branch target and in front of the retirement.  That a trap in front of the fetch does not take
     the target up makes no difference, since it sends the program counter elsewhere
     (`redirect_trap`).

  What a step does to some part of the processor is from here on a case split over ten actions, and
  never over the instruction set.
-/
import PlayStation.Cpu.Step

namespace PlayStation

/-- What is left of an effect once memory has answered. -/
inductive Action where
  | nothing
  | write (r : Reg) (value : UInt32)
  | writeLater (r : Reg) (value : UInt32)
  | setHiLo (value : HiLo)
  | branch (link : Option (Reg × UInt32)) (target : Option UInt32)
  | writeSystem (r : Fin 32) (value : UInt32)
  | writeGeometry (r : Fin 32) (value : UInt32)
  | writeGeometryControl (r : Fin 32) (value : UInt32)
  | restoreMode
  | trap (t : Trap)
deriving DecidableEq, Repr

/-- The action of a load whose value has arrived. -/
def LoadTarget.action (width : AccessWidth) (value : UInt32) : LoadTarget → Action
  | .register r widening => .writeLater r (Cpu.widen widening width value)
  | .geometry r => .writeGeometry r value

namespace Cpu

/-- Carries out an action. -/
def act (cpu : Cpu) : Action → Cpu
  | .nothing => cpu
  | .write r value => cpu.setReg r value
  | .writeLater r value => cpu.setRegLater r value
  | .setHiLo value => { cpu with hiLo := value }
  | .branch link target => cpu.takeBranch link target
  | .writeSystem r value => { cpu with system := cpu.system.write r.val value }
  | .writeGeometry r value => { cpu with geometry := cpu.geometry.setData r value }
  | .writeGeometryControl r value => { cpu with geometry := cpu.geometry.setControl r value }
  | .restoreMode => { cpu with system := cpu.system.restoreMode }
  | .trap t => cpu.trap t

variable {β : Type} [Bus β]

/-- What a refused data access comes to. -/
def refusal : Fault → Except Fault Action
  | .unmapped _ => .ok (.trap { cause := .busErrorData })
  | fault => .error fault

/-- Lets memory answer an effect. -/
def settle (cpu : Cpu) (bus : β) : Effect → Except Fault Action × β
  | .nothing => (.ok .nothing, bus)
  | .write r value => (.ok (.write r value), bus)
  | .writeLater r value => (.ok (.writeLater r value), bus)
  | .setHiLo value => (.ok (.setHiLo value), bus)
  | .branch link target => (.ok (.branch link target), bus)
  | .load width address target =>
    match Bus.load width address bus with
    | (.ok value, bus) => (.ok (target.action width value), bus)
    | (.error fault, bus) => (refusal fault, bus)
  | .store width address value =>
    match Bus.store width address (value &&& width.mask) bus with
    | ⟨bus, none⟩ => (.ok .nothing, bus)
    | ⟨bus, some fault⟩ => (refusal fault, bus)
  | .writeSystem r value => (.ok (.writeSystem r value), bus)
  | .writeGeometry r value => (.ok (.writeGeometry r value), bus)
  | .writeGeometryControl r value => (.ok (.writeGeometryControl r value), bus)
  | .restoreMode => (.ok .restoreMode, bus)
  | .raise t => (.ok (.trap t), bus)
  | .unimplemented => (.error (.unimplemented cpu.instruction.word cpu.currentPc), bus)

/-- The processor with a fetched instruction: the slots have aged. -/
def fetched (cpu : Cpu) (i : Instruction) : Cpu := { cpu.begin with instruction := i }

/-- What the step from here comes to: the instruction that is current in it, and its action. -/
def course (cpu : Cpu) (bus : β) : Except Fault (Instruction × Action) × β :=
  let now := cpu.begin
  if now.system.interruptPending then (.ok (now.instruction, .trap { cause := .interrupt }), bus)
  else if !AccessWidth.word.isAligned now.pc then
    (.ok (now.instruction, .trap { cause := .addressErrorLoad, badAddress := some now.pc }), bus)
  else
    match Bus.load .word now.pc bus with
    | (.ok word, bus) =>
      let (answer, bus) := (cpu.fetched ⟨word⟩).settle bus ((cpu.fetched ⟨word⟩).effect ⟨word⟩)
      (answer.map fun action => (⟨word⟩, action), bus)
    | (.error (.unmapped _), bus) =>
      (.ok (now.instruction, .trap { cause := .busErrorInstruction }), bus)
    | (.error fault, bus) => (.error fault, bus)

/-- The processor in front of an action: a branch target that was due is taken up. -/
def ready (cpu : Cpu) (i : Instruction) : Cpu := (cpu.fetched i).redirect

/-- The processor behind a step that comes to an action. -/
def after (cpu : Cpu) (i : Instruction) (a : Action) : Cpu := ((cpu.ready i).act a).retire

/-! ## What does not matter -/

/-- An instruction means the same wherever the program counter goes next. -/
theorem effect_redirect (cpu : Cpu) (i : Instruction) : cpu.redirect.effect i = cpu.effect i := by
  unfold redirect
  split <;> rfl

theorem settle_redirect (cpu : Cpu) (bus : β) (e : Effect) :
    cpu.redirect.settle bus e = cpu.settle bus e := by
  unfold redirect
  split <;> rfl

/-- A trap sends the program counter to the handler, whether or not a target was taken up. -/
theorem redirect_trap (cpu : Cpu) (t : Trap) : cpu.redirect.trap t = cpu.trap t := by
  unfold redirect
  split <;> rfl

theorem instruction_ready (cpu : Cpu) (i : Instruction) : (cpu.ready i).instruction = i := by
  unfold ready redirect
  split <;> rfl

/-! ## The normal form -/

/-- Performing an effect is acting on what it settles to; if it settles to a fault, nothing is
done. -/
theorem perform_eq_settle (cpu : Cpu) (bus : β) (e : Effect) :
    cpu.perform bus e =
      match cpu.settle bus e with
      | (.ok a, bus) => .done (cpu.act a, bus)
      | (.error fault, bus) => .stopped fault (cpu, bus) := by
  cases e with
  | load width address target =>
    rcases h : Bus.load width address bus with ⟨fault | value, bus'⟩
    · simp only [perform, settle, h]
      cases fault <;> rfl
    · simp only [perform, settle, h]
      cases target <;> rfl
  | store width address value =>
    rcases h : Bus.store width address (value &&& width.mask) bus with ⟨bus', _ | fault⟩
    · simp only [perform, settle, h]
      rfl
    · simp only [perform, settle, h]
      cases fault <;> rfl
  | _ => rfl

/-- A fetched instruction is carried out as it settles. -/
theorem perform_ready (cpu : Cpu) (i : Instruction) (bus : β) :
    (cpu.ready i).perform bus ((cpu.ready i).effect (cpu.ready i).instruction) =
      match (cpu.fetched i).settle bus ((cpu.fetched i).effect i) with
      | (.ok a, bus) => .done ((cpu.ready i).act a, bus)
      | (.error fault, bus) => .stopped fault (cpu.ready i, bus) := by
  rw [instruction_ready, perform_eq_settle]
  simp only [ready, effect_redirect, settle_redirect]

/-- **The two ways of a step**: it acts on its course, or it stops with the fault of its course. -/
theorem step_cases (cpu : Cpu) (bus : β) :
    (∃ i a bus', cpu.course bus = (.ok (i, a), bus') ∧
      cpu.step bus = .done (cpu.after i a, bus')) ∨
    (∃ fault bus' stopped, cpu.course bus = (.error fault, bus') ∧
      cpu.step bus = .stopped fault (stopped, bus')) := by
  -- a trap in front of the fetch leaves the old instruction current
  have hearly : ∀ t, cpu.after cpu.begin.instruction (.trap t) = (cpu.begin.trap t).retire :=
    fun t => congrArg retire (redirect_trap cpu.begin t)
  simp only [course, step, fetchAndPerform]
  by_cases hinterrupt : cpu.begin.system.interruptPending = true
  · rw [if_pos hinterrupt, if_pos hinterrupt]
    exact .inl ⟨_, _, _, rfl, by rw [hearly]; rfl⟩
  rw [if_neg hinterrupt, if_neg hinterrupt]
  by_cases haligned : (!AccessWidth.word.isAligned cpu.begin.pc) = true
  · rw [if_pos haligned, if_pos haligned]
    exact .inl ⟨_, _, _, rfl, by rw [hearly]; rfl⟩
  rw [if_neg haligned, if_neg haligned]
  rcases Bus.load .word cpu.begin.pc bus with ⟨fault | word, bus'⟩
  · cases fault with
    | unmapped address => exact .inl ⟨_, _, _, rfl, by rw [hearly]; rfl⟩
    | _ => exact .inr ⟨_, _, _, rfl, rfl⟩
  · have hready := cpu.perform_ready ⟨word⟩ bus'
    simp only [← fetched.eq_1, ← ready.eq_1, hready]
    rcases (cpu.fetched ⟨word⟩).settle bus' ((cpu.fetched ⟨word⟩).effect ⟨word⟩)
      with ⟨fault | a, bus''⟩
    · exact .inr ⟨_, _, _, rfl, rfl⟩
    · exact .inl ⟨_, _, _, rfl, rfl⟩

/-- A step that returns acted on its course. -/
theorem course_of_step {cpu cpu' : Cpu} {bus bus' : β} (h : cpu.step bus = .done (cpu', bus')) :
    ∃ i a, cpu.course bus = (.ok (i, a), bus') ∧ cpu' = cpu.after i a := by
  rcases step_cases cpu bus with ⟨i, a, bus₁, hcourse, hstep⟩ | ⟨fault, bus₁, s, -, hstep⟩
  · rw [hstep] at h
    cases h
    exact ⟨i, a, hcourse, rfl⟩
  · rw [hstep] at h
    cases h

/-- A step whose course is an action takes it. -/
theorem step_of_course {cpu : Cpu} {bus bus' : β} {i : Instruction} {a : Action}
    (h : cpu.course bus = (.ok (i, a), bus')) : cpu.step bus = .done (cpu.after i a, bus') := by
  rcases step_cases cpu bus with ⟨i', a', bus₁, hcourse, hstep⟩ | ⟨fault, bus₁, s, hcourse, -⟩
  · rw [h] at hcourse
    cases hcourse
    exact hstep
  · rw [h] at hcourse
    cases hcourse

end Cpu

end PlayStation

/-
  One STEP of the processor.

    1. every delay slot ages;
    2. a pending interrupt is taken, or else the word at the program counter is fetched;
    3. a branch target that is due is taken up, as the word in front of it;
    4. the fetched instruction's effect is carried out;
    5. loads that are due are written back;
    6. the program counter moves on by one word.

  Architectural faults are vectored inside the step.  A host fault ends it where it occurs: what
  comes after does not happen, what came before stays.
-/
import PlayStation.Cpu.Effect

namespace PlayStation

namespace Cpu

/-! ## Carrying out an effect -/

/-- Enters an exception and leaves its particulars in system control. -/
def trap (cpu : Cpu) (t : Trap) : Cpu :=
  let system := match t.badAddress with
    | some address => { cpu.system with badAddress := address }
    | none => cpu.system
  let system := match t.coprocessor with
    | some n => system.nameCoprocessor n
    | none => system
  { cpu with system }.raise t.cause

/-- Transfers control, after the delay slot. -/
def takeBranch (cpu : Cpu) (link : Option (Reg × UInt32)) (target : Option UInt32) : Cpu :=
  let cpu := match link with
    | some (r, address) => cpu.setReg r address
    | none => cpu
  match target with
  | some address => { cpu with branched := true, branch := .schedule address }
  | none => { cpu with branched := true }

/-- Widens a loaded value to a word. -/
def widen : Widening → AccessWidth → UInt32 → UInt32
  | .signed, .byte, value => Word.signExtendByte value
  | .signed, .half, value => Word.signExtendHalf value
  | _, width, value => value &&& width.mask

/-- Receives a loaded value. -/
def receive (cpu : Cpu) (width : AccessWidth) (value : UInt32) : LoadTarget → Cpu
  | .register r widening => cpu.setRegLater r (widen widening width value)
  | .geometry r => { cpu with geometry := cpu.geometry.setData r value }

variable {β : Type} [Bus β]

/-- What a refused data access comes to: a bus error if nothing answers, and otherwise a host
fault. -/
def refused (cpu : Cpu) (bus : β) : Fault → Outcome (Cpu × β)
  | .unmapped _ => .done (cpu.raise .busErrorData, bus)
  | fault => .stopped fault (cpu, bus)

/-- Carries out an effect. -/
@[specialize] def perform (cpu : Cpu) (bus : β) : Effect → Outcome (Cpu × β)
  | .nothing => .done (cpu, bus)
  | .write r value => .done (cpu.setReg r value, bus)
  | .writeLater r value => .done (cpu.setRegLater r value, bus)
  | .setHiLo value => .done ({ cpu with hiLo := value }, bus)
  | .branch link target => .done (cpu.takeBranch link target, bus)
  | .load width address target =>
    match Bus.load width address bus with
    | (.ok value, bus) => .done (cpu.receive width value target, bus)
    | (.error fault, bus) => cpu.refused bus fault
  | .store width address value =>
    match Bus.store width address (value &&& width.mask) bus with
    | ⟨bus, none⟩ => .done (cpu, bus)
    | ⟨bus, some fault⟩ => cpu.refused bus fault
  | .writeSystem r value => .done ({ cpu with system := cpu.system.write r.val value }, bus)
  | .writeGeometry r value => .done ({ cpu with geometry := cpu.geometry.setData r value }, bus)
  | .writeGeometryControl r value =>
    .done ({ cpu with geometry := cpu.geometry.setControl r value }, bus)
  | .restoreMode => .done ({ cpu with system := cpu.system.restoreMode }, bus)
  | .raise t => .done (cpu.trap t, bus)
  | .unimplemented =>
    .stopped (.unimplemented cpu.instruction.word cpu.currentPc) (cpu, bus)

/-! ## The phases of a step -/

/-- Phase 1: the delay slots age, and the instruction at the program counter becomes current. -/
def begin (cpu : Cpu) : Cpu :=
  { cpu with
    loads := cpu.loads.map DelaySlot.age
    branch := cpu.branch.age
    currentPc := cpu.pc
    inDelaySlot := cpu.branched
    branched := false }

/-- Phase 3: a branch target that is due is taken up. -/
def redirect (cpu : Cpu) : Cpu :=
  if cpu.branch.isDue then
    { cpu with pc := cpu.branch.value - 4, branch := cpu.branch.cancel }
  else cpu

/-- Phases 2 to 4. -/
@[specialize] def fetchAndPerform (cpu : Cpu) (bus : β) : Outcome (Cpu × β) :=
  if !AccessWidth.word.isAligned cpu.pc then
    .done (cpu.trap { cause := .addressErrorLoad, badAddress := some cpu.pc }, bus)
  else
    match Bus.load .word cpu.pc bus with
    | (.ok word, bus) =>
      let cpu := { cpu with instruction := ⟨word⟩ }.redirect
      cpu.perform bus (cpu.effect cpu.instruction)
    | (.error (.unmapped _), bus) => .done (cpu.raise .busErrorInstruction, bus)
    | (.error fault, bus) => .stopped fault (cpu, bus)

/-- Phases 5 and 6. -/
def retire (cpu : Cpu) : Cpu :=
  { cpu with
    regs := cpu.regs.zipWith (fun old slot => if slot.isDue then slot.value else old) cpu.loads
    pc := cpu.pc + 4
    steps := cpu.steps + 1 }

/-- One step. -/
@[specialize] def step (cpu : Cpu) (bus : β) : Outcome (Cpu × β) :=
  let cpu := cpu.begin
  let worked : Outcome (Cpu × β) :=
    if cpu.system.interruptPending then .done (cpu.raise .interrupt, bus)
    else cpu.fetchAndPerform bus
  match worked with
  | ⟨(cpu, bus), none⟩ => .done (cpu.retire, bus)
  | stopped => stopped

end Cpu

end PlayStation

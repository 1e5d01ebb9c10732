/-
  The state of the PROCESSOR, a MIPS R3000A.

  Thirty-two general registers, of which register 0 always reads as zero, the pair HI:LO, the
  program counter, and a delay slot for each register and for the program counter.

  A load schedules its register's slot, so the instruction right behind it still reads the old
  value.  A later load of the same register takes the slot over, and a direct write cancels a value
  that is due in the same step; either way the older value is never seen.

  A branch schedules the branch slot.  `branched` remembers that the last instruction was a branch,
  taken or not, for then the next one sits in its delay slot.
-/
import PlayStation.Cpu.Arithmetic
import PlayStation.Cpu.DelaySlot
import PlayStation.Cpu.GeometryRegisters
import PlayStation.Cpu.Instruction
import PlayStation.Cpu.SystemControl

namespace PlayStation

/-- Where the processor starts: the first word of the BIOS. -/
def resetVector : UInt32 := 0xBFC00000

/-- The state of the processor. -/
structure Cpu where
  regs : Table UInt32 32
  hiLo : HiLo
  /-- The address of the next fetch. -/
  pc : UInt32
  /-- The address of the instruction being executed. -/
  currentPc : UInt32
  /-- The instruction being executed. -/
  instruction : Instruction
  /-- Loads on their way, one slot for each register. -/
  loads : Table DelaySlot 32
  /-- The branch target on its way. -/
  branch : DelaySlot
  /-- The instruction being executed sits behind a branch. -/
  inDelaySlot : Bool
  /-- The last instruction was a branch, taken or not. -/
  branched : Bool
  system : SystemControl
  geometry : GeometryRegisters
  /-- Steps taken since reset. -/
  steps : Nat
deriving DecidableEq, Repr

namespace Cpu

/-- Power-on. -/
def reset : Cpu where
  regs := Vector.replicate 32 0
  hiLo := ⟨0, 0⟩
  pc := resetVector
  currentPc := resetVector
  instruction := ⟨0⟩
  loads := Vector.replicate 32 {}
  branch := {}
  inDelaySlot := false
  branched := false
  system := .reset
  geometry := .reset
  steps := 0

instance : Inhabited Cpu := ⟨reset⟩

/-! ## General registers -/

/-- Reads a register; register 0 is zero. -/
@[inline] def reg (cpu : Cpu) (r : Reg) : UInt32 :=
  if r.val = 0 then 0 else cpu.regs.entry r

/-- Writes a register at once and calls off a load that is due for it.  Register 0 ignores it. -/
def setReg (cpu : Cpu) (r : Reg) (value : UInt32) : Cpu :=
  if r.val = 0 then cpu
  else if (cpu.loads.entry r).isDue then
    { cpu with
      regs := cpu.regs.put r value
      loads := cpu.loads.put r (cpu.loads.entry r).cancel }
  else { cpu with regs := cpu.regs.put r value }

/-- Writes a register one step late.  Register 0 ignores it. -/
def setRegLater (cpu : Cpu) (r : Reg) (value : UInt32) : Cpu :=
  if r.val = 0 then cpu else { cpu with loads := cpu.loads.put r (.schedule value) }

/-! ## Control flow -/

/-- Sets the address of the next fetch; a branch on its way is forgotten. -/
def setPc (cpu : Cpu) (pc : UInt32) : Cpu := { cpu with pc, branch := {} }

/-- The address that the handler of an exception raised now has to return to: the instruction
itself, or the branch in front of it. -/
def returnAddress (cpu : Cpu) : UInt32 :=
  if cpu.inDelaySlot then cpu.currentPc - 4 else cpu.currentPc

/-- Enters an exception.  The program counter is left one word in front of the handler, where the
increment at the end of the step takes it up. -/
def raise (cpu : Cpu) (cause : ExceptionCause) : Cpu :=
  let system := cpu.system.enter cause cpu.returnAddress cpu.inDelaySlot
  { cpu with system, pc := system.handler - 4, branch := cpu.branch.cancel }

/-- Drives the hardware interrupt line. -/
def driveLine (cpu : Cpu) (active : Bool) : Cpu :=
  { cpu with system := cpu.system.driveLine active }

end Cpu

end PlayStation

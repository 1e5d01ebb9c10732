/-
  What an instruction MEANS.

  An instruction does one thing.  `Effect` lists the things there are: write a register now or one
  step late, write HI:LO, transfer control, access the bus, move a value into a coprocessor, raise
  an exception, or stop the host.  `Cpu.effect` computes the effect of an instruction from the
  registers, and changes nothing; carrying an effect out is a separate matter.

  Two facts are visible in the type.  An instruction that raises an exception does nothing else,
  since its effect is `raise`.  And whether an instruction is a branch, with a delay slot behind it,
  is decided by its effect alone.
-/
import PlayStation.Bus
import PlayStation.Cpu.Basic

namespace PlayStation

/-- An exception with what it leaves in system control beside its cause. -/
structure Trap where
  cause : ExceptionCause
  /-- The offending address of an address error. -/
  badAddress : Option UInt32 := none
  /-- The coprocessor that could not be used. -/
  coprocessor : Option Coprocessor := none
deriving DecidableEq, Repr

/-- How a loaded value is widened to a word. -/
inductive Widening where
  | signed
  | unsigned
deriving DecidableEq, Repr

/-- Where a loaded value goes. -/
inductive LoadTarget where
  /-- A general register, one step late. -/
  | register (r : Reg) (widening : Widening)
  /-- A data register of the geometry engine, at once. -/
  | geometry (r : Fin 32)
deriving DecidableEq, Repr

/-- The one thing an instruction does. -/
inductive Effect where
  | nothing
  /-- Write a general register. -/
  | write (r : Reg) (value : UInt32)
  /-- Write a general register one step late. -/
  | writeLater (r : Reg) (value : UInt32)
  | setHiLo (value : HiLo)
  /-- A branch or jump, and the return address it leaves behind.  Without a target it is not
  taken. -/
  | branch (link : Option (Reg × UInt32)) (target : Option UInt32)
  | load (width : AccessWidth) (address : UInt32) (target : LoadTarget)
  | store (width : AccessWidth) (address value : UInt32)
  /-- Write a register of system control. -/
  | writeSystem (r : Fin 32) (value : UInt32)
  /-- Write a data register of the geometry engine. -/
  | writeGeometry (r : Fin 32) (value : UInt32)
  /-- Write a control register of the geometry engine. -/
  | writeGeometryControl (r : Fin 32) (value : UInt32)
  /-- Return from an exception. -/
  | restoreMode
  | raise (trap : Trap)
  /-- The core does not execute this instruction. -/
  | unimplemented
deriving DecidableEq, Repr

namespace Cpu

variable (cpu : Cpu) (i : Instruction)

/-! ## Operands -/

/-- The register `rs`. -/
@[inline] def rs : UInt32 := cpu.reg i.rs

/-- The register `rt`. -/
@[inline] def rt : UInt32 := cpu.reg i.rt

/-- The address of a load or store. -/
@[inline] def effectiveAddress : UInt32 := cpu.rs i + i.immSigned

/-- The address of the delay slot. -/
@[inline] def delayAddress : UInt32 := cpu.currentPc + 4

/-- The target of a relative branch, which counts from the delay slot. -/
@[inline] def branchTarget : UInt32 := cpu.delayAddress + i.branchOffset

/-- The target of a jump, within the 256 MB around the delay slot. -/
@[inline] def jumpTarget : UInt32 := (cpu.delayAddress &&& 0xF0000000) ||| i.jumpOffset

/-- The address behind the delay slot. -/
@[inline] def linkAddress : UInt32 := cpu.currentPc + 8

/-! ## Families of instructions -/

/-- Write a result, or trap if there is none. -/
def writeOrTrap (r : Reg) : Option UInt32 → Effect
  | some value => .write r value
  | none => .raise { cause := .overflow }

/-- A relative branch under a condition. -/
def branchIf (condition : Bool) : Effect :=
  .branch none (if condition then some (cpu.branchTarget i) else none)

/-- A relative branch under a condition that links whether or not it is taken. -/
def branchAndLinkIf (condition : Bool) : Effect :=
  .branch (some (Reg.link, cpu.linkAddress)) (if condition then some (cpu.branchTarget i) else none)

/-- An access that must be aligned. -/
def aligned (width : AccessWidth) (cause : ExceptionCause) (address : UInt32)
    (access : Effect) : Effect :=
  if width.isAligned address then access
  else .raise { cause, badAddress := some address }

/-- A load into a general register. -/
def loadRegister (width : AccessWidth) (widening : Widening) : Effect :=
  let address := cpu.effectiveAddress i
  aligned width .addressErrorLoad address (.load width address (.register i.rt widening))

/-- A store from a general register; it goes nowhere while the cache is isolated. -/
def storeRegister (width : AccessWidth) : Effect :=
  let address := cpu.effectiveAddress i
  aligned width .addressErrorStore address
    (if cpu.system.cacheIsolated then .nothing else .store width address (cpu.rt i))

/-- The exception of an instruction that addresses a coprocessor it must not. -/
def unusable (n : Coprocessor) : Effect :=
  .raise { cause := .coprocessorUnusable, coprocessor := some n }

/-- A load into the geometry engine, the only coprocessor with a path to memory. -/
def loadCoprocessor (n : Coprocessor) : Effect :=
  if n ≠ .two || !cpu.system.usable n then unusable n
  else
    let address := cpu.effectiveAddress i
    aligned .word .addressErrorLoad address (.load .word address (.geometry i.rt))

/-- A store from the geometry engine; it reaches memory whether or not the cache is isolated. -/
def storeCoprocessor (n : Coprocessor) : Effect :=
  if n ≠ .two || !cpu.system.usable n then unusable n
  else
    let address := cpu.effectiveAddress i
    aligned .word .addressErrorStore address
      (.store .word address (cpu.geometry.data.entry i.rt))

/-- A command of system control: return from exception.  There is no look-aside buffer, so the
commands that address one are accepted and do nothing. -/
def systemCommand (immediate : UInt32) : Effect :=
  match (immediate &&& 0x3F).toNat with
  | 0x10 => .restoreMode
  | 0x01 | 0x02 | 0x06 | 0x08 => .nothing
  | _ => .raise { cause := .reservedInstruction }

/-- Work of coprocessor 0. -/
def systemEffect : Effect :=
  match i.coprocessorOperation with
  | .mfc => .writeLater i.rt (cpu.system.read i.rd.val)
  | .mtc => .writeSystem i.rd (cpu.rt i)
  | .bcf => cpu.branchIf i true
  | .bct => .nothing
  | .command immediate => systemCommand immediate
  | .cfc | .ctc | .reserved => .raise { cause := .reservedInstruction }

/-- Work of coprocessor 2.  Its commands are not executed. -/
def geometryEffect : Effect :=
  match i.coprocessorOperation with
  | .mfc => .writeLater i.rt (cpu.geometry.data.entry i.rd)
  | .cfc => .writeLater i.rt (cpu.geometry.control.entry i.rd)
  | .mtc => .writeGeometry i.rd (cpu.rt i)
  | .ctc => .writeGeometryControl i.rd (cpu.rt i)
  | .bcf => cpu.branchIf i true
  | .bct => .nothing
  | .command _ => .unimplemented
  | .reserved => .raise { cause := .reservedInstruction }

/-- Work of a coprocessor.  No coprocessor drives its condition line, so a branch on a false
condition is always taken, and one on a true condition never happens. -/
def coprocessorEffect (n : Coprocessor) : Effect :=
  if cpu.system.usable n then
    if n = .zero then cpu.systemEffect i else cpu.geometryEffect i
  else unusable n

/-! ## The meaning of an instruction -/

/-- What an instruction does in the present state. -/
def effect : Effect :=
  match i.operation with
  | .sll => .write i.rd (cpu.rt i <<< i.shamt)
  | .srl => .write i.rd (cpu.rt i >>> i.shamt)
  | .sra => .write i.rd (shiftRightSigned (cpu.rt i) i.shamt)
  | .sllv => .write i.rd (cpu.rt i <<< (cpu.rs i &&& 0x1F))
  | .srlv => .write i.rd (cpu.rt i >>> (cpu.rs i &&& 0x1F))
  | .srav => .write i.rd (shiftRightSigned (cpu.rt i) (cpu.rs i &&& 0x1F))
  | .jr => .branch none (some (cpu.rs i))
  | .jalr => .branch (some (i.rd, cpu.linkAddress)) (some (cpu.rs i))
  | .syscall => .raise { cause := .syscall }
  | .break => .raise { cause := .breakpoint }
  | .mfhi => .write i.rd cpu.hiLo.hi
  | .mthi => .setHiLo { cpu.hiLo with hi := cpu.rs i }
  | .mflo => .write i.rd cpu.hiLo.lo
  | .mtlo => .setHiLo { cpu.hiLo with lo := cpu.rs i }
  | .mult => .setHiLo (.mulSigned (cpu.rs i) (cpu.rt i))
  | .multu => .setHiLo (.mulUnsigned (cpu.rs i) (cpu.rt i))
  | .div => .setHiLo (.divSigned (cpu.rs i) (cpu.rt i))
  | .divu => .setHiLo (.divUnsigned (cpu.rs i) (cpu.rt i))
  | .add => writeOrTrap i.rd (add? (cpu.rs i) (cpu.rt i))
  | .addu => .write i.rd (cpu.rs i + cpu.rt i)
  | .sub => writeOrTrap i.rd (sub? (cpu.rs i) (cpu.rt i))
  | .subu => .write i.rd (cpu.rs i - cpu.rt i)
  | .and => .write i.rd (cpu.rs i &&& cpu.rt i)
  | .or => .write i.rd (cpu.rs i ||| cpu.rt i)
  | .xor => .write i.rd (cpu.rs i ^^^ cpu.rt i)
  | .nor => .write i.rd (~~~(cpu.rs i ||| cpu.rt i))
  | .slt => .write i.rd (flagWord (lessSigned (cpu.rs i) (cpu.rt i)))
  | .sltu => .write i.rd (flagWord (cpu.rs i < cpu.rt i))
  | .bltz => cpu.branchIf i (isNegative (cpu.rs i))
  | .bgez => cpu.branchIf i (!isNegative (cpu.rs i))
  | .bltzal => cpu.branchAndLinkIf i (isNegative (cpu.rs i))
  | .bgezal => cpu.branchAndLinkIf i (!isNegative (cpu.rs i))
  | .j => .branch none (some (cpu.jumpTarget i))
  | .jal => .branch (some (Reg.link, cpu.linkAddress)) (some (cpu.jumpTarget i))
  | .beq => cpu.branchIf i (cpu.rs i == cpu.rt i)
  | .bne => cpu.branchIf i (cpu.rs i != cpu.rt i)
  | .blez => cpu.branchIf i (isNegative (cpu.rs i) || cpu.rs i == 0)
  | .bgtz => cpu.branchIf i (!isNegative (cpu.rs i) && cpu.rs i != 0)
  | .addi => writeOrTrap i.rt (add? (cpu.rs i) i.immSigned)
  | .addiu => .write i.rt (cpu.rs i + i.immSigned)
  | .slti => .write i.rt (flagWord (lessSigned (cpu.rs i) i.immSigned))
  | .sltiu => .write i.rt (flagWord (cpu.rs i < i.immSigned))
  | .andi => .write i.rt (cpu.rs i &&& i.imm)
  | .ori => .write i.rt (cpu.rs i ||| i.imm)
  | .xori => .write i.rt (cpu.rs i ^^^ i.imm)
  | .lui => .write i.rt (i.imm <<< 16)
  | .cop n => cpu.coprocessorEffect i n
  | .lb => cpu.loadRegister i .byte .signed
  | .lh => cpu.loadRegister i .half .signed
  | .lw => cpu.loadRegister i .word .unsigned
  | .lbu => cpu.loadRegister i .byte .unsigned
  | .lhu => cpu.loadRegister i .half .unsigned
  | .sb => cpu.storeRegister i .byte
  | .sh => cpu.storeRegister i .half
  | .sw => cpu.storeRegister i .word
  | .lwc n => cpu.loadCoprocessor i n
  | .swc n => cpu.storeCoprocessor i n
  | .lwl | .lwr | .swl | .swr => .unimplemented
  | .reserved => .raise { cause := .reservedInstruction }

end Cpu

end PlayStation

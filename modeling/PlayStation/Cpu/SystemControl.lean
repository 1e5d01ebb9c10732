/-
  SYSTEM CONTROL, the processor's coprocessor 0.

  Status register:

    0      IEc   interrupts enabled
    1      KUc   user mode
    2-3          the previous pair
    4-5          the old pair
    8-15   IM    interrupt mask
    16     IsC   cache isolated: stores do not reach memory
    22     BEV   exception vectors in ROM
    28-31  CU    coprocessor usable

  Cause register:

    2-6    ExcCode
    8-9          software interrupts
    10           the hardware interrupt line
    28-29  CE    the coprocessor of an unusable-coprocessor exception
    31     BD    taken in a branch delay slot

  Taking an exception pushes the mode pairs by one place (zeros come in: kernel mode, interrupts
  off); returning from one pops them and leaves the oldest pair where it is.
-/
import PlayStation.Cpu.Coprocessor
import PlayStation.Word

namespace PlayStation

/-- Why the processor leaves the normal flow of instructions. -/
inductive ExceptionCause where
  | interrupt
  /-- Misaligned load or fetch. -/
  | addressErrorLoad
  | addressErrorStore
  /-- Nothing answers at the fetched address. -/
  | busErrorInstruction
  /-- Nothing answers at the address of a load or store. -/
  | busErrorData
  | syscall
  | breakpoint
  | reservedInstruction
  | coprocessorUnusable
  | overflow
deriving DecidableEq, Repr, Inhabited

/-- The number by which the cause register names a cause. -/
def ExceptionCause.code : ExceptionCause → UInt32
  | .interrupt => 0
  | .addressErrorLoad => 4
  | .addressErrorStore => 5
  | .busErrorInstruction => 6
  | .busErrorData => 7
  | .syscall => 8
  | .breakpoint => 9
  | .reservedInstruction => 10
  | .coprocessorUnusable => 11
  | .overflow => 12

/-- The breakpoint registers.  They are stored, without effect. -/
structure Breakpoints where
  /-- Where execution is to stop. -/
  execution : UInt32 := 0
  /-- Where an access is to stop. -/
  access : UInt32 := 0
  /-- Where the last jump went. -/
  jumpTarget : UInt32 := 0
  control : UInt32 := 0
  accessMask : UInt32 := 0
  executionMask : UInt32 := 0
deriving DecidableEq, Repr, Inhabited

/-- The registers of coprocessor 0. -/
structure SystemControl where
  status : UInt32
  cause : UInt32
  /-- Where to go on after the exception. -/
  epc : UInt32
  /-- The address of the last address error. -/
  badAddress : UInt32
  breakpoints : Breakpoints
deriving DecidableEq, Repr

namespace SystemControl

/-- Power-on: coprocessor 0 usable, vectors in RAM. -/
def reset : SystemControl where
  status := 0x10900000
  cause := 0
  epc := 0
  badAddress := 0
  breakpoints := {}

instance : Inhabited SystemControl := ⟨reset⟩

/-! ## Registers by number -/

/-- Reads a register.  Numbers without a register read as zero. -/
def read (c : SystemControl) (index : Nat) : UInt32 :=
  match index with
  | 3 => c.breakpoints.execution
  | 5 => c.breakpoints.access
  | 6 => c.breakpoints.jumpTarget
  | 7 => c.breakpoints.control
  | 8 => c.badAddress
  | 9 => c.breakpoints.accessMask
  | 11 => c.breakpoints.executionMask
  | 12 => c.status
  | 13 => c.cause
  | 14 => c.epc
  | 15 => 2
  | _ => 0

/-- Writes a register.  Of the cause only the software interrupts can be written; the exception
registers and unlisted numbers ignore the write. -/
def write (c : SystemControl) (index : Nat) (value : UInt32) : SystemControl :=
  match index with
  | 3 => { c with breakpoints := { c.breakpoints with execution := value } }
  | 5 => { c with breakpoints := { c.breakpoints with access := value } }
  | 6 => { c with breakpoints := { c.breakpoints with jumpTarget := value } }
  | 7 => { c with breakpoints := { c.breakpoints with control := value } }
  | 9 => { c with breakpoints := { c.breakpoints with accessMask := value } }
  | 11 => { c with breakpoints := { c.breakpoints with executionMask := value } }
  | 12 => { c with status := value }
  | 13 => { c with cause := Word.merge c.cause 0x300 value }
  | _ => c

/-! ## Fields -/

/-- Exception vectors lie in ROM. -/
def bootVectors (c : SystemControl) : Bool := Word.bit c.status 22

/-- Stores go to the cache instead of memory. -/
def cacheIsolated (c : SystemControl) : Bool := Word.bit c.status 16

def kernelMode (c : SystemControl) : Bool := !Word.bit c.status 1

/-- The usable bit of coprocessor `n`. -/
def enabled (c : SystemControl) (n : Coprocessor) : Bool :=
  Word.bit c.status (28 + n.number)

/-- Whether an instruction may address coprocessor `n`: coprocessor 0 always in kernel mode,
coprocessor 2 by its bit, and the other two are not fitted. -/
def usable (c : SystemControl) (n : Coprocessor) : Bool :=
  match n with
  | .zero => c.kernelMode || c.enabled .zero
  | .two => c.enabled .two
  | .one | .three => false

def exceptionCode (c : SystemControl) : UInt32 := (c.cause >>> 2) &&& 0x1F

/-- The last exception was taken in a branch delay slot. -/
def branchDelay (c : SystemControl) : Bool := Word.bit c.cause 31

/-! ## Interrupts and exceptions -/

/-- Drives the hardware interrupt line. -/
@[inline] def driveLine (c : SystemControl) (active : Bool) : SystemControl :=
  { c with cause := Word.withBit c.cause 10 active }

/-- Interrupts are enabled and a pending one is not masked. -/
@[inline] def interruptPending (c : SystemControl) : Bool :=
  Word.bit c.status 0 && (c.cause &&& c.status) &&& 0xFF00 != 0

/-- Where exceptions are handled. -/
def handler (c : SystemControl) : UInt32 :=
  if c.bootVectors then 0xBFC00180 else 0x80000080

/-- Records an exception: mode pairs pushed, cause and delay-slot flag set, return address kept. -/
def enter (c : SystemControl) (cause : ExceptionCause) (epc : UInt32) (inDelaySlot : Bool) :
    SystemControl :=
  { c with
    status := Word.merge c.status 0x3F (c.status <<< 2)
    cause := Word.withBit (Word.merge c.cause 0x7C (cause.code <<< 2)) 31 inDelaySlot
    epc }

/-- Records which coprocessor could not be used. -/
def nameCoprocessor (c : SystemControl) (n : Coprocessor) : SystemControl :=
  { c with cause := Word.merge c.cause 0x30000000 (n.number <<< 28) }

/-- Returns from an exception: mode pairs popped, the oldest left in place. -/
def restoreMode (c : SystemControl) : SystemControl :=
  { c with status := Word.merge c.status 0x0F (c.status >>> 2) }

end SystemControl

end PlayStation

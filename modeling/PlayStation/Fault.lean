/-
  HOST FAULTS: what stops the emulation, as opposed to what the emulated processor handles.

  An overflow, a system call or a bus error on a load is architectural: the processor vectors it
  and goes on.  A `Fault` is for the host: an instruction the core does not execute, a bus that
  refuses an access no program can be blamed for, a bad setting.

  Work that can stop half-way returns an `Outcome`: the state it reached, together with the fault
  that stopped it, if any.  The state is there in both cases, because a caller may look at it.
-/
import PlayStation.Dma.Device
import PlayStation.Word

namespace PlayStation

/-- The number of bytes of a BIOS image. -/
def biosSize : Nat := 0x80000

/-- Why the host has to stop. -/
inductive Fault where
  /-- No readable BIOS file at this path. -/
  | biosNotFound (path : String)
  /-- A BIOS image of the wrong size, in bytes. -/
  | biosWrongSize (size : Nat)
  /-- Nothing answers at this address. -/
  | unmapped (address : UInt32)
  /-- An access of `size` bytes at an address that is no multiple of it. -/
  | misaligned (address : UInt32) (size : Nat)
  /-- An instruction word the core does not execute, and where it was fetched. -/
  | unimplemented (word pc : UInt32)
  /-- A DMA channel was started in a way its device does not support. -/
  | unsupportedTransfer (channel : Nat) (device : Dma.Device) (mode : Dma.SyncMode)
      (direction : Dma.Direction)
  /-- A setting that cannot be used. -/
  | configuration (text : String)
  /-- A settings file that cannot be read as text. -/
  | unreadable
  /-- A settings document that is not well formed or holds something it must not. -/
  | malformed
deriving DecidableEq, Repr, Inhabited

/-- The report shown to the user. -/
def Fault.message : Fault → String
  | .biosNotFound path => "BIOS file not found: " ++ path
  | .biosWrongSize size =>
    "Invalid BIOS size: " ++ toString size ++ " bytes (expected " ++ toString biosSize ++ ")"
  | .unmapped address => "Invalid memory access at 0x" ++ Word.hex address
  | .misaligned address size =>
    "Unaligned memory access: " ++ toString size ++ "-byte access at 0x" ++ Word.hex address
  | .unimplemented word pc =>
    "Unimplemented instruction 0x" ++ Word.hex word ++ " at PC=0x" ++ Word.hex pc
  | .unsupportedTransfer channel device mode direction =>
    "Unsupported DMA transfer on channel " ++ toString channel ++ " (" ++ device.name ++ "): "
      ++ mode.name ++ " mode, " ++ direction.name
  | .configuration text => "Configuration error: " ++ text
  | .unreadable => "I/O error"
  | .malformed => "Config parse error"

/-- The state that some work reached, and the fault that stopped it there, if one did. -/
structure Outcome (σ : Type) where
  state : σ
  fault : Option Fault := none

namespace Outcome

/-- The work was done. -/
@[inline] def done {σ : Type} (state : σ) : Outcome σ := ⟨state, none⟩

/-- The work stopped in `state`. -/
@[inline] def stopped {σ : Type} (fault : Fault) (state : σ) : Outcome σ := ⟨state, some fault⟩

/-- Goes on from the state reached, unless a fault stopped the work. -/
@[inline] def andThen {σ : Type} (o : Outcome σ) (next : σ → Outcome σ) : Outcome σ :=
  match o with
  | ⟨state, none⟩ => next state
  | ⟨state, some fault⟩ => ⟨state, some fault⟩

end Outcome

end PlayStation

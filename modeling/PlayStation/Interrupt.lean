/-
  The INTERRUPT CONTROLLER: eleven sources, a status and a mask.

  A device raises a source, which latches it in the status.  Software acknowledges by writing
  zeros: a status bit survives a write only where the written value has a one.  The processor's
  interrupt line is up while status and mask share a source.
-/

namespace PlayStation

/-- A set of interrupt sources, one bit each. -/
structure IrqSet where
  bits : UInt16
deriving DecidableEq, Repr, Inhabited

namespace IrqSet

/-- No source. -/
def empty : IrqSet := ⟨0⟩

/-- The sources among the low eleven bits; the others stand for nothing. -/
def ofBits (bits : UInt16) : IrqSet := ⟨bits &&& 0x07FF⟩

def vblank : IrqSet := ⟨0x0001⟩
def gpu : IrqSet := ⟨0x0002⟩
def dma : IrqSet := ⟨0x0008⟩

def timer0 : IrqSet := ⟨0x0010⟩
def timer1 : IrqSet := ⟨0x0020⟩
def timer2 : IrqSet := ⟨0x0040⟩

/-- The sources in either set. -/
@[inline] def union (a b : IrqSet) : IrqSet := ⟨a.bits ||| b.bits⟩

/-- The sources in both sets. -/
@[inline] def inter (a b : IrqSet) : IrqSet := ⟨a.bits &&& b.bits⟩

@[inline] def isEmpty (a : IrqSet) : Bool := a.bits == 0

/-- The set itself, or nothing. -/
@[inline] def when (a : IrqSet) (condition : Bool) : IrqSet := if condition then a else empty

end IrqSet

/-- The pending sources and those that may reach the processor. -/
structure InterruptController where
  status : IrqSet
  mask : IrqSet
deriving DecidableEq, Repr

namespace InterruptController

/-- Nothing pending, everything masked. -/
def reset : InterruptController := ⟨.empty, .empty⟩

instance : Inhabited InterruptController := ⟨reset⟩

/-- Latches requests. -/
def raise (c : InterruptController) (sources : IrqSet) : InterruptController :=
  { c with status := c.status.union sources }

/-- Drops every pending source whose bit in `value` is zero. -/
def acknowledge (c : InterruptController) (value : UInt16) : InterruptController :=
  { c with status := c.status.inter (.ofBits value) }

/-- An unmasked source is pending. -/
def pending (c : InterruptController) : Bool :=
  !(c.status.inter c.mask).isEmpty

/-- The register at an offset into the controller's window: status, then mask. -/
def read (c : InterruptController) (offset : UInt32) : UInt32 :=
  if offset &&& 4 == 0 then c.status.bits.toUInt32 else c.mask.bits.toUInt32

/-- Writes the register at an offset: an acknowledgement, or a new mask. -/
def write (c : InterruptController) (offset value : UInt32) : InterruptController :=
  if offset &&& 4 == 0 then c.acknowledge value.toUInt16
  else { c with mask := .ofBits value.toUInt16 }

end InterruptController

end PlayStation

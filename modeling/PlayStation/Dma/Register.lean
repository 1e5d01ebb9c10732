/-
  The DMA REGISTERS.

  A window of 128 bytes: sixteen for each of the seven channels, of which the first three words
  are used, then the control register and the interrupt register.

    DPCR   four bits for each channel: priority in the low three, enable in the top one

    DICR   0-5    stored
           15     force the interrupt
           16-22  interrupt enable of each channel
           23     interrupts enabled at all
           24-30  completion flag of each channel; writing a one clears it
           31     the interrupt signal, derived from the others
-/
import PlayStation.Word

namespace PlayStation.Dma

/-- A channel number. -/
abbrev ChannelIndex := Fin 7

/-- What an offset into the window names. -/
inductive Register where
  /-- The address in RAM. -/
  | madr (channel : ChannelIndex)
  /-- The size and number of blocks. -/
  | brc (channel : ChannelIndex)
  /-- The control word of a channel. -/
  | chcr (channel : ChannelIndex)
  /-- Priorities and enables. -/
  | dpcr
  /-- Interrupts. -/
  | dicr
  | unused (offset : Nat)
deriving DecidableEq, Repr

/-- The register that a byte offset falls into. -/
def Register.ofOffset (offset : UInt32) : Register :=
  let block := Word.field offset 4 3
  let word := Word.field offset 2 2
  if h : block < 7 then
    match word with
    | 0 => .madr ⟨block, h⟩
    | 1 => .brc ⟨block, h⟩
    | 2 => .chcr ⟨block, h⟩
    | _ => .unused (16 * block + 4 * word)
  else
    match word with
    | 0 => .dpcr
    | 1 => .dicr
    | _ => .unused (16 * block + 4 * word)

/-- Priority and enable of every channel. -/
structure Dpcr where
  bits : UInt32
deriving DecidableEq, Repr

namespace Dpcr

/-- All channels disabled, priorities 1 to 7. -/
def reset : Dpcr := ⟨0x07654321⟩

instance : Inhabited Dpcr := ⟨reset⟩

/-- The lower number goes first. -/
def priority (d : Dpcr) (channel : ChannelIndex) : Nat := Word.field d.bits (4 * channel.val) 3

def enabled (d : Dpcr) (channel : ChannelIndex) : Bool :=
  Word.bit d.bits (UInt32.ofNat (4 * channel.val + 3))

end Dpcr

/-- The interrupt register; bit 31 is not stored. -/
structure Dicr where
  bits : UInt32 := 0
deriving DecidableEq, Repr, Inhabited

namespace Dicr

/-- The bits that are stored as written. -/
def storedMask : UInt32 := 0x00FF803F

/-- The completion flags. -/
def flagMask : UInt32 := 0x7F000000

/-- The interrupt is forced. -/
def forced (d : Dicr) : Bool := Word.bit d.bits 15

/-- Channels may interrupt at all. -/
def masterEnable (d : Dicr) : Bool := Word.bit d.bits 23

/-- Completion of a channel leaves its flag. -/
def channelEnabled (d : Dicr) (channel : ChannelIndex) : Bool :=
  Word.bit d.bits (UInt32.ofNat (16 + channel.val))

/-- The completion flags, channel 0 lowest. -/
def flags (d : Dicr) : Nat := Word.field d.bits 24 7

/-- The interrupt signal: forced, or enabled with a flag of an enabled channel. -/
def signal (d : Dicr) : Bool :=
  d.forced || (d.masterEnable && (d.bits >>> 16) &&& (d.bits >>> 24) &&& 0x7F != 0)

/-- The register as software reads it. -/
def read (d : Dicr) : UInt32 := Word.withBit d.bits 31 d.signal

/-- Stores the settings; a flag survives unless it is written as one. -/
def write (d : Dicr) (value : UInt32) : Dicr :=
  ⟨(value &&& storedMask) ||| (d.bits &&& flagMask &&& ~~~value)⟩

/-- A channel is through with its transfer. -/
def complete (d : Dicr) (channel : ChannelIndex) : Dicr :=
  if d.channelEnabled channel then ⟨Word.withBit d.bits (UInt32.ofNat (24 + channel.val)) true⟩
  else d

end Dicr

end PlayStation.Dma

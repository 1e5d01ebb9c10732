/-
  The DMA CONTROLLER: seven channels, one bus.

  At every step the controller gives the bus to one channel that is enabled and busy: to the one
  with the lowest priority number, and of several such to the one with the highest index.  While
  a channel moves words, the processor is held off.

  A channel that was started in a way its device does not support is done at once.  The step
  reports when the interrupt signal rose since the step before.
-/
import PlayStation.Dma.Advance
import PlayStation.Table

namespace PlayStation

open Dma

/-- The DMA controller. -/
structure Dma where
  channels : Table Channel 7
  dpcr : Dpcr
  dicr : Dicr
  /-- A channel moved a word in the last step and has more. -/
  accessing : Bool
  /-- The interrupt signal as the last step saw it. -/
  signal : Bool
deriving DecidableEq, Repr

namespace Dma

/-- Every channel idle. -/
def reset : Dma where
  channels := Vector.ofFn fun i => { device := .ofChannel i.val }
  dpcr := .reset
  dicr := {}
  accessing := false
  signal := false

instance : Inhabited Dma := ⟨reset⟩

@[inline] def channel (dma : Dma) (i : ChannelIndex) : Channel := dma.channels.entry i

@[inline] def setChannel (dma : Dma) (i : ChannelIndex) (c : Channel) : Dma :=
  { dma with channels := dma.channels.put i c }

/-! ## Arbitration -/

/-- The channel asks for the bus and may have it. -/
def eligible (dma : Dma) (i : ChannelIndex) : Bool := dma.dpcr.enabled i && (dma.channel i).busy

/-- The better of the best channel so far and one further down. -/
def prefer (dma : Dma) (best : Option ChannelIndex) (i : ChannelIndex) : Option ChannelIndex :=
  if !dma.eligible i then best
  else
    match best with
    | none => some i
    | some b => if dma.dpcr.priority b ≤ dma.dpcr.priority i then some b else some i

/-- The channels, highest index first. -/
def scanOrder : List ChannelIndex := (List.finRange 7).reverse

/-- The channel that gets the bus. -/
def select (dma : Dma) : Option ChannelIndex :=
  scanOrder.foldl dma.prefer none

/-! ## Steps -/

/-- The channel's transfer is over. -/
def complete (dma : Dma) (i : ChannelIndex) : Dma :=
  { dma.setChannel i (dma.channel i).finish with dicr := dma.dicr.complete i }

/-- Starts the channel's transfer, if none is under way; refused requests give nothing. -/
def started? (c : Channel) (i : ChannelIndex) : Option Channel :=
  if c.inFlight then some c
  else
    match c.latch i with
    | .ok transfer => some (c.start transfer)
    | .error _ => none

/-- Takes over what one step of a channel's transfer came to. -/
def record (dma : Dma) (i : ChannelIndex) (progress : Progress) (c : Channel) : Dma :=
  let dma := dma.setChannel i c
  match progress with
  | .waiting => dma
  | .busy => { dma with accessing := true }
  | .complete => dma.complete i

/-- One step of the channel that has the bus. -/
def runChannel (dma : Dma) (i : ChannelIndex) (memory : Memory) (gpu : Gpu) :
    Dma × Memory × Gpu :=
  match started? (dma.channel i) i with
  | none => (dma.complete i, memory, gpu)
  | some c =>
    let ((progress, c), memory, gpu) := c.advance memory gpu
    (dma.record i progress c, memory, gpu)

/-- Looks at the interrupt signal; whether it rose. -/
def sampleSignal (dma : Dma) : Bool × Dma :=
  (dma.dicr.signal && !dma.signal, { dma with signal := dma.dicr.signal })

/-- One step of the controller; whether the interrupt signal rose. -/
def step (dma : Dma) (memory : Memory) (gpu : Gpu) : Bool × Dma × Memory × Gpu :=
  let dma := { dma with accessing := false }
  match dma.select with
  | none =>
    let (edge, dma) := dma.sampleSignal
    (edge, dma, memory, gpu)
  | some i =>
    let (dma, memory, gpu) := dma.runChannel i memory gpu
    let (edge, dma) := dma.sampleSignal
    (edge, dma, memory, gpu)

/-! ## Registers -/

/-- The register at an offset. -/
def read (dma : Dma) (offset : UInt32) : UInt32 :=
  match Register.ofOffset offset with
  | .madr i => (dma.channel i).madr
  | .brc i => (dma.channel i).brc
  | .chcr i => (dma.channel i).control
  | .dpcr => dma.dpcr.bits
  | .dicr => dma.dicr.read
  | .unused _ => 0

/-- Writes the register at an offset. -/
def write (dma : Dma) (offset value : UInt32) : Dma :=
  match Register.ofOffset offset with
  | .madr i => dma.setChannel i ((dma.channel i).setMadr value)
  | .brc i => dma.setChannel i { dma.channel i with brc := value }
  | .chcr i => dma.setChannel i ((dma.channel i).setControl value)
  | .dpcr => { dma with dpcr := ⟨value⟩ }
  | .dicr => { dma with dicr := dma.dicr.write value }
  | .unused _ => dma

/-- What a narrow store keeps of a register; a completion flag is never kept, as it would be
    acknowledged by being written back. -/
def kept (dma : Dma) (offset : UInt32) : UInt32 :=
  match Register.ofOffset offset with
  | .dicr => dma.read offset &&& ~~~Dicr.flagMask
  | _ => dma.read offset

/-- Writes only the bits of a register that `lanes` names. -/
def writeLanes (dma : Dma) (offset value lanes : UInt32) : Dma :=
  dma.write offset (Word.merge (dma.kept offset) lanes value)

end Dma

end PlayStation

/-
  The DEVICES behind the processor's bus.

  Four windows of the register area belong to a device; every other address goes to memory.

    0x1F801070-0x1F801077   interrupt controller
    0x1F801080-0x1F8010FF   DMA
    0x1F801100-0x1F80112F   root counters
    0x1F801810-0x1F801813   GPU: commands and reads
    0x1F801814-0x1F801817   GPU: control and status

  Device registers are words.  A narrow load reads the word and shifts its lane down.  A narrow
  store shifts the value into its lane; DMA registers keep their other lanes, while the rest of
  the devices, where even reading has effects, take the shifted value as a word.
-/
import PlayStation.Dma.Controller
import PlayStation.Gpu.Control
import PlayStation.Gpu.Step
import PlayStation.Interrupt
import PlayStation.Timer.Bank

namespace PlayStation

/-- Everything the processor reaches over its bus. -/
structure Devices where
  memory : Memory := .blank
  gpu : Gpu := {}
  dma : Dma := .reset
  timers : Timers := .reset
  interrupts : InterruptController := .reset
deriving Inhabited

/-- A device register, by the offset of its word in the device's window. -/
inductive DeviceRegister where
  | interrupts (offset : UInt32)
  | dma (offset : UInt32)
  | timers (offset : UInt32)
  | gpuData
  | gpuControl
deriving DecidableEq, Repr

/-- The device register that a physical address falls into, if it does. -/
def DeviceRegister.of? (p : UInt32) : Option DeviceRegister :=
  let word := p &&& ~~~3
  if 0x1F801070 ≤ p && p ≤ 0x1F801077 then some (.interrupts (word - 0x1F801070))
  else if 0x1F801080 ≤ p && p ≤ 0x1F8010FF then some (.dma (word - 0x1F801080))
  else if 0x1F801100 ≤ p && p ≤ 0x1F80112F then some (.timers (word - 0x1F801100))
  else if word == 0x1F801810 then some .gpuData
  else if word == 0x1F801814 then some .gpuControl
  else none

namespace Devices

/-- Reads a device register; some change by it. -/
def readRegister (d : Devices) : DeviceRegister → UInt32 × Devices
  | .interrupts offset => (d.interrupts.read offset, d)
  | .dma offset => (d.dma.read offset, d)
  | .timers offset =>
    let (word, timers) := d.timers.read offset
    (word, { d with timers })
  | .gpuData =>
    let (word, gpu) := d.gpu.readWord
    (word, { d with gpu })
  | .gpuControl => (d.gpu.statusWord, d)

/-- Writes a device register with a value that is in its lane already. -/
def writeRegister (d : Devices) (width : AccessWidth) (lanes value : UInt32) :
    DeviceRegister → Devices
  | .interrupts offset => { d with interrupts := d.interrupts.write offset value }
  | .dma offset =>
    match width with
    | .word => { d with dma := d.dma.write offset value }
    | _ => { d with dma := d.dma.writeLanes offset value lanes }
  | .timers offset => { d with timers := d.timers.write offset value }
  | .gpuData => { d with gpu := d.gpu.queue value }
  | .gpuControl => { d with gpu := d.gpu.control value }

/-- How far the lane of a narrow access is shifted. -/
@[inline] def laneShift (p : UInt32) : UInt32 := (p &&& 3) * 8

/-- Reads from a virtual address. -/
def load (width : AccessWidth) (address : UInt32) (d : Devices) : Except Fault UInt32 × Devices :=
  let p := physical address
  match DeviceRegister.of? p with
  | none => (d.memory.read width address, d)
  | some register =>
    if !width.isAligned address then (.error (.misaligned address width.bytes), d)
    else
      let (word, d) := d.readRegister register
      (.ok ((word >>> laneShift p) &&& width.mask), d)

/-- Writes the low bytes of `value` to a virtual address. -/
def store (width : AccessWidth) (address value : UInt32) (d : Devices) : Outcome Devices :=
  let p := physical address
  match DeviceRegister.of? p with
  | none =>
    let ⟨memory, fault⟩ := d.memory.write width address value
    ⟨{ d with memory }, fault⟩
  | some register =>
    if !width.isAligned address then .stopped (.misaligned address width.bytes) d
    else
      let lanes := width.mask <<< laneShift p
      .done (d.writeRegister width lanes ((value &&& width.mask) <<< laneShift p) register)

instance : Bus Devices where
  load := load
  store := store

/-- Power-on; the BIOS, the renderer and the video standard stay. -/
def reset (d : Devices) : Devices where
  memory := d.memory.reset
  gpu := d.gpu.reset
  dma := .reset
  timers := .reset
  interrupts := .reset

/-- What happens to the devices in a tick before the processor's turn: the counters run. -/
def runTimers (d : Devices) (scanlines : Nat) : Devices :=
  let (requests, timers) := d.timers.step 1 scanlines
  { d with timers, interrupts := d.interrupts.raise requests }

/-- What happens to them after it: the GPU, then DMA.  The flag says whether a line ended. -/
def runVideoAndDma (d : Devices) : Bool × Devices :=
  let (events, gpu) := d.gpu.step
  let interrupts :=
    d.interrupts.raise ((IrqSet.vblank.when events.vblank).union (IrqSet.gpu.when events.irq))
  let (rose, dma, memory, gpu) := d.dma.step d.memory gpu
  (events.hblank,
    { d with memory, gpu, dma, interrupts := interrupts.raise (IrqSet.dma.when rose) })

end Devices

end PlayStation

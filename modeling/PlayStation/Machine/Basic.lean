/-
  The MACHINE: a processor and its devices, in step.

  One tick is one system cycle.

    1. the counters run; a scanline that ended in the tick before clocks them now
    2. the processor takes a step, unless DMA has the bus
    3. the GPU takes a step
    4. DMA moves at most a word
    5. the processor's interrupt line is driven

  A host fault of the processor ends the tick on the spot: 3 to 5 do not happen in it.
-/
import PlayStation.Cpu.Step
import PlayStation.Machine.Devices

namespace PlayStation

/-- The machine. -/
structure Machine where
  cpu : Cpu := .reset
  devices : Devices := {}
  /-- Complete ticks since reset. -/
  ticks : Nat := 0
  /-- The last tick ended a scanline. -/
  scanlineEnded : Bool := false
deriving Inhabited

namespace Machine

/-- A machine without a BIOS, under a video standard. -/
def powerOn (standard : Gpu.VideoStandard) : Machine :=
  { devices := { gpu := ({} : Gpu).setVideoStandard standard } }

/-- Puts the BIOS image from a file in; the file may be missing. -/
def loadBiosFile (m : Machine) (path : String) (image : Option ByteArray) :
    Except Fault Machine := do
  let memory ← m.devices.memory.loadBiosFile path image
  .ok { m with devices := { m.devices with memory } }

/-- A power cycle; the BIOS, the renderer and the video standard stay. -/
def reset (m : Machine) : Machine :=
  { cpu := .reset, devices := m.devices.reset, ticks := 0, scanlineEnded := false }

/-! ## Ticks -/

/-- The processor's turn in a tick. -/
def runCpu (m : Machine) : Outcome Machine :=
  if m.devices.dma.accessing then .done m
  else
    let ⟨(cpu, devices), fault⟩ := m.cpu.step m.devices
    ⟨{ m with cpu, devices }, fault⟩

/-- What follows the processor's turn. -/
def finishTick (m : Machine) : Machine :=
  let (scanlineEnded, devices) := m.devices.runVideoAndDma
  { cpu := m.cpu.driveLine devices.interrupts.pending
    devices
    ticks := m.ticks + 1
    scanlineEnded }

/-- One tick. -/
def tick (m : Machine) : Outcome Machine :=
  let devices := m.devices.runTimers (if m.scanlineEnded then 1 else 0)
  let o := ({ m with devices, scanlineEnded := false }).runCpu
  match o.fault with
  | none => .done o.state.finishTick
  | some fault => .stopped fault o.state

/-- Ticks until a fault, at most `n` times. -/
def runFor (m : Machine) : Nat → Outcome Machine
  | 0 => .done m
  | n + 1 =>
    match m.tick with
    | ⟨m, none⟩ => m.runFor n
    | ⟨m, some fault⟩ => .stopped fault m

/-- Ticks until the processor has taken a step, at most `n` times: DMA may hold the bus for long,
    and with a chain of empty packets that closes on itself, for ever. -/
def stepInstructionWithin (m : Machine) : Nat → Outcome Machine
  | 0 => .done m
  | n + 1 =>
    let steps := m.cpu.steps
    match m.tick with
    | ⟨m, some fault⟩ => .stopped fault m
    | ⟨m, none⟩ => if m.cpu.steps = steps then m.stepInstructionWithin n else .done m

/-- More ticks than anyone will wait for: four thousand years of machine time. -/
def endless : Nat := 0x4000000000000000

/-- Ticks until the processor has taken a step. -/
def stepInstruction (m : Machine) : Outcome Machine := m.stepInstructionWithin endless

/-- Ticks until a fault. -/
def run (m : Machine) : Outcome Machine := m.runFor endless

end Machine

end PlayStation

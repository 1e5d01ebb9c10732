/-
  Two MACHINES that nobody can tell apart.

  Two machines are `Alike` when they differ in the ring of the command FIFO alone, and not in the
  words that wait there.  So do they stay, part by part.

  1. **DMA** sees of the GPU its status word and the words it reads (`Dma.step_alike`).

  2. **The devices** answer every access alike (`Devices.inStep`), so they are two buses in step and
     the processor does the same on both.

  3. **A tick** returns on both, or stops on both with the same fault (`Machine.Alike.tick`).
-/
import PlayStation.Proofs.Cpu.Buses
import PlayStation.Proofs.Gpu.Ring
import PlayStation.Proofs.Machine.Devices
import PlayStation.Proofs.Machine.Tick

namespace PlayStation

/-! ## DMA -/

namespace Dma

variable {g h : Gpu}

namespace Channel

theorem blockWaits_alike (hgh : g.Alike h) (c : Channel) : c.blockWaits g = c.blockWaits h := by
  rw [blockWaits, blockWaits, hgh.statusWord]

theorem listWaits_alike (hgh : g.Alike h) : listWaits g = listWaits h := by
  rw [listWaits, listWaits, hgh.statusWord]

theorem moveWord_alike (hgh : g.Alike h) (c : Channel) (b : Block) (memory : Memory) :
    (c.moveWord b memory g).1 = (c.moveWord b memory h).1 ∧
    (c.moveWord b memory g).2.Alike (c.moveWord b memory h).2 := by
  unfold moveWord
  split
  · exact ⟨rfl, hgh⟩
  · cases c.direction with
    | fromRam => exact ⟨rfl, hgh.queue _⟩
    | toRam =>
      obtain ⟨hword, hgpu⟩ := hgh.readWord
      exact ⟨congrArg (memory.setRamWord b.address) hword, hgpu⟩

theorem advance_alike (hgh : g.Alike h) (c : Channel) (memory : Memory) :
    (c.advance memory g).1 = (c.advance memory h).1 ∧
    (c.advance memory g).2.1 = (c.advance memory h).2.1 ∧
    (c.advance memory g).2.2.Alike (c.advance memory h).2.2 := by
  unfold advance
  cases c.transfer with
  | none => exact ⟨rfl, rfl, hgh⟩
  | some transfer =>
    cases transfer with
    | block b =>
      simp only [c.blockWaits_alike hgh]
      split
      · exact ⟨rfl, rfl, hgh⟩
      · exact ⟨rfl, c.moveWord_alike hgh b memory⟩
    | list address phase =>
      simp only [listWaits_alike hgh]
      split
      · exact ⟨rfl, rfl, hgh⟩
      · cases phase with
        | header => exact ⟨rfl, rfl, hgh⟩
        | payload remaining next => exact ⟨rfl, rfl, hgh.queue _⟩

end Channel

theorem runChannel_alike (hgh : g.Alike h) (dma : Dma) (i : ChannelIndex) (memory : Memory) :
    (dma.runChannel i memory g).1 = (dma.runChannel i memory h).1 ∧
    (dma.runChannel i memory g).2.1 = (dma.runChannel i memory h).2.1 ∧
    (dma.runChannel i memory g).2.2.Alike (dma.runChannel i memory h).2.2 := by
  unfold runChannel
  cases started? (dma.channel i) i with
  | none => exact ⟨rfl, rfl, hgh⟩
  | some c =>
    obtain ⟨hprogress, hmemory, hgpu⟩ := c.advance_alike hgh memory
    exact ⟨by simp only [hprogress], hmemory, hgpu⟩

/-- **A step of DMA** sees of the GPU its status word and the words it reads. -/
theorem step_alike (hgh : g.Alike h) (dma : Dma) (memory : Memory) :
    (dma.step memory g).1 = (dma.step memory h).1 ∧
    (dma.step memory g).2.1 = (dma.step memory h).2.1 ∧
    (dma.step memory g).2.2.1 = (dma.step memory h).2.2.1 ∧
    (dma.step memory g).2.2.2.Alike (dma.step memory h).2.2.2 := by
  unfold step
  simp only
  cases ({ dma with accessing := false } : Dma).select with
  | none => exact ⟨rfl, rfl, rfl, hgh⟩
  | some i =>
    obtain ⟨hdma, hmemory, hgpu⟩ :=
      runChannel_alike hgh { dma with accessing := false } i memory
    simp only [hdma]
    exact ⟨trivial, trivial, hmemory, hgpu⟩

end Dma

/-! ## Devices -/

/-- Devices that differ in the ring of the FIFO alone. -/
structure Devices.Alike (d e : Devices) : Prop where
  memory : d.memory = e.memory
  gpu : d.gpu.Alike e.gpu
  dma : d.dma = e.dma
  timers : d.timers = e.timers
  interrupts : d.interrupts = e.interrupts

namespace Devices

variable {d e : Devices}

theorem readRegister_alike (h : d.Alike e) (register : DeviceRegister) :
    (d.readRegister register).1 = (e.readRegister register).1 ∧
    (d.readRegister register).2.Alike (e.readRegister register).2 := by
  cases register with
  | interrupts offset => exact ⟨congrArg (·.read offset) h.interrupts, h⟩
  | dma offset => exact ⟨congrArg (·.read offset) h.dma, h⟩
  | timers offset =>
    exact ⟨congrArg (fun timers => (timers.read offset).1) h.timers,
      { h with timers := congrArg (fun timers => (timers.read offset).2) h.timers }⟩
  | gpuData =>
    obtain ⟨hword, hgpu⟩ := h.gpu.readWord
    exact ⟨hword, { h with gpu := hgpu }⟩
  | gpuControl => exact ⟨h.gpu.statusWord, h⟩

theorem writeRegister_alike (h : d.Alike e) (width : AccessWidth) (lanes value : UInt32)
    (register : DeviceRegister) :
    (d.writeRegister width lanes value register).Alike
      (e.writeRegister width lanes value register) := by
  cases register with
  | interrupts offset =>
    exact { h with interrupts := congrArg (·.write offset value) h.interrupts }
  | dma offset =>
    cases width with
    | word => exact { h with dma := congrArg (·.write offset value) h.dma }
    | _ => exact { h with dma := congrArg (·.writeLanes offset value lanes) h.dma }
  | timers offset => exact { h with timers := congrArg (·.write offset value) h.timers }
  | gpuData => exact { h with gpu := h.gpu.queue value }
  | gpuControl => exact { h with gpu := h.gpu.control value }

theorem request_alike (h : d.Alike e) (r : Request) :
    r.reply d = r.reply e ∧ (r.perform d).Alike (r.perform e) := by
  cases r with
  | load width address =>
    rw [Request.reply, Request.reply, Request.perform, Request.perform]
    cases hregister : DeviceRegister.of? (physical address) with
    | none =>
      rw [d.load_of_memory hregister, e.load_of_memory hregister, h.memory]
      exact ⟨rfl, h⟩
    | some register =>
      cases haligned : width.isAligned address with
      | false =>
        rw [d.load_of_misaligned hregister haligned, e.load_of_misaligned hregister haligned]
        exact ⟨rfl, h⟩
      | true =>
        obtain ⟨hword, hdevices⟩ := readRegister_alike h register
        rw [d.load_of_register hregister haligned, e.load_of_register hregister haligned, hword]
        exact ⟨rfl, hdevices⟩
  | store width address value =>
    rw [Request.reply, Request.reply, Request.perform, Request.perform]
    cases hregister : DeviceRegister.of? (physical address) with
    | none =>
      rw [d.store_of_memory hregister, e.store_of_memory hregister, h.memory]
      exact ⟨rfl, { h with memory := rfl }⟩
    | some register =>
      cases haligned : width.isAligned address with
      | false =>
        rw [d.store_of_misaligned hregister haligned, e.store_of_misaligned hregister haligned]
        exact ⟨rfl, h⟩
      | true =>
        rw [d.store_of_register hregister haligned, e.store_of_register hregister haligned]
        exact ⟨rfl, writeRegister_alike h width _ _ register⟩

/-- **Alike devices** are buses in step. -/
theorem inStep : InStep Devices.Alike where
  reply r h := (request_alike h r).1
  perform r h := (request_alike h r).2

theorem runTimers_alike (h : d.Alike e) (scanlines : Nat) :
    (d.runTimers scanlines).Alike (e.runTimers scanlines) := by
  have htimers : d.timers.step 1 scanlines = e.timers.step 1 scanlines := by rw [h.timers]
  refine ⟨h.memory, h.gpu, h.dma, ?_, ?_⟩
  · show (d.timers.step 1 scanlines).2 = (e.timers.step 1 scanlines).2
    rw [htimers]
  · show d.interrupts.raise (d.timers.step 1 scanlines).1 =
      e.interrupts.raise (e.timers.step 1 scanlines).1
    rw [htimers, h.interrupts]

/-- What the second half of a tick makes of the devices, part by part. -/
theorem runVideoAndDma_eq (d : Devices) :
    d.runVideoAndDma =
      (d.gpu.step.1.hblank,
        { memory := (d.dma.step d.memory d.gpu.step.2).2.2.1
          gpu := (d.dma.step d.memory d.gpu.step.2).2.2.2
          dma := (d.dma.step d.memory d.gpu.step.2).2.1
          timers := d.timers
          interrupts :=
            (d.interrupts.raise ((IrqSet.vblank.when d.gpu.step.1.vblank).union
              (IrqSet.gpu.when d.gpu.step.1.irq))).raise
              (IrqSet.dma.when (d.dma.step d.memory d.gpu.step.2).1) }) := rfl

theorem runVideoAndDma_alike (h : d.Alike e) :
    d.runVideoAndDma.1 = e.runVideoAndDma.1 ∧ d.runVideoAndDma.2.Alike e.runVideoAndDma.2 := by
  obtain ⟨hevents, hgpu⟩ := h.gpu.step
  obtain ⟨hrose, hdma, hmemory, htransfer⟩ := Dma.step_alike hgpu d.dma d.memory
  rw [runVideoAndDma_eq, runVideoAndDma_eq, ← h.dma, ← h.memory, ← h.timers, ← h.interrupts,
    ← hevents]
  refine ⟨rfl, ⟨hmemory, htransfer, hdma, rfl, ?_⟩⟩
  simp only [hrose]

end Devices

/-! ## Machines -/

/-- Machines that differ in the ring of the FIFO alone. -/
structure Machine.Alike (m n : Machine) : Prop where
  cpu : m.cpu = n.cpu
  devices : m.devices.Alike n.devices
  ticks : m.ticks = n.ticks
  scanlineEnded : m.scanlineEnded = n.scanlineEnded

namespace Machine.Alike

variable {m n : Machine}

theorem clocked (h : m.Alike n) : m.clocked.Alike n.clocked := by
  unfold Machine.clocked
  rw [h.scanlineEnded]
  exact Devices.runTimers_alike h.devices _

theorem turn (h : m.Alike n) :
    m.turn.fault = n.turn.fault ∧ m.turn.state.Alike n.turn.state := by
  cases haccessing : m.devices.dma.accessing with
  | true =>
    have haccessing' : n.devices.dma.accessing = true := h.devices.dma ▸ haccessing
    rw [m.turn_of_accessing haccessing, n.turn_of_accessing haccessing']
    exact ⟨rfl, h.cpu, h.clocked, h.ticks, rfl⟩
  | false =>
    have haccessing' : n.devices.dma.accessing = false := h.devices.dma ▸ haccessing
    have hstep := Cpu.matching_step Devices.inStep h.clocked m.cpu
    rw [m.turn_of_free haccessing, n.turn_of_free haccessing', ← h.cpu]
    exact ⟨hstep.fault, hstep.cpu, hstep.bus, h.ticks, rfl⟩

theorem finishTick (h : m.Alike n) : m.finishTick.Alike n.finishTick := by
  obtain ⟨hscanline, hdevices⟩ := Devices.runVideoAndDma_alike h.devices
  refine ⟨?_, hdevices, congrArg (· + 1) h.ticks, hscanline⟩
  show m.cpu.driveLine m.devices.runVideoAndDma.2.interrupts.pending = _
  rw [h.cpu, hdevices.interrupts]
  rfl

/-- **A tick** returns on both, or stops on both with the same fault. -/
theorem tick (h : m.Alike n) : m.tick.fault = n.tick.fault ∧ m.tick.state.Alike n.tick.state := by
  obtain ⟨hfault, hstate⟩ := h.turn
  rw [m.fault_tick, n.fault_tick]
  refine ⟨hfault, ?_⟩
  by_cases hdone : m.turn.fault = none
  · rw [state_of_done hdone, state_of_done (hfault ▸ hdone)]
    exact hstate.finishTick
  · rw [state_of_stopped hdone, state_of_stopped (hfault ▸ hdone)]
    exact hstate

/-- **Runs** go on for as long on both. -/
theorem runFor (limit : Nat) : ∀ {m n : Machine}, m.Alike n →
    (m.runFor limit).fault = (n.runFor limit).fault ∧
    (m.runFor limit).state.Alike (n.runFor limit).state := by
  induction limit with
  | zero => exact fun h => ⟨rfl, h⟩
  | succ limit ih =>
    intro m n h
    have htick := h.tick
    unfold Machine.runFor
    rcases hm : m.tick with ⟨m', fault⟩
    rcases hn : n.tick with ⟨n', fault'⟩
    rw [hm, hn] at htick
    obtain ⟨hfault, hstate⟩ := htick
    obtain rfl : fault = fault' := hfault
    cases fault with
    | none => exact ih hstate
    | some fault => exact ⟨rfl, hstate⟩

/-- **The processor** takes its next step in the same tick on both. -/
theorem stepInstructionWithin (limit : Nat) : ∀ {m n : Machine}, m.Alike n →
    (m.stepInstructionWithin limit).fault = (n.stepInstructionWithin limit).fault ∧
    (m.stepInstructionWithin limit).state.Alike (n.stepInstructionWithin limit).state := by
  induction limit with
  | zero => exact fun h => ⟨rfl, h⟩
  | succ limit ih =>
    intro m n h
    have htick := h.tick
    unfold Machine.stepInstructionWithin
    rcases hm : m.tick with ⟨m', fault⟩
    rcases hn : n.tick with ⟨n', fault'⟩
    rw [hm, hn] at htick
    obtain ⟨hfault, hstate⟩ := htick
    obtain rfl : fault = fault' := hfault
    cases fault with
    | none =>
      have hcpu : m'.cpu = n'.cpu := hstate.cpu
      simp only [h.cpu, hcpu]
      split
      · exact ih hstate
      · exact ⟨rfl, hstate⟩
    | some fault => exact ⟨rfl, hstate⟩

end Machine.Alike

end PlayStation

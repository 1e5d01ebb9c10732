/-
  The parts of a TICK.

  A tick runs the counters, gives the processor its turn, and then the GPU and DMA theirs.  The
  state between two parts has a name here: `Machine.clocked` in front of the processor's turn,
  `Machine.turn` behind it, and `Machine.front` in front of the step of DMA.  A tick stops if the
  processor's turn does (`fault_tick`, `state_of_stopped`); otherwise what it leaves of DMA, memory
  and GPU is a step of DMA from `front` (`front_tick`).
-/
import PlayStation.Machine.Basic
import PlayStation.Proofs.Dma.Traffic

namespace PlayStation.Machine

variable (m : Machine)

/-- The devices when the counters have run. -/
def clocked : Devices := m.devices.runTimers (if m.scanlineEnded then 1 else 0)

/-- The processor's turn. -/
def turn : Outcome Machine := ({ m with devices := m.clocked, scanlineEnded := false }).runCpu

/-- While DMA has the bus, nothing happens. -/
theorem turn_of_accessing (h : m.devices.dma.accessing = true) :
    m.turn = .done { m with devices := m.clocked, scanlineEnded := false } := by
  have haccessing : m.clocked.dma.accessing = true := h
  simp only [turn, runCpu, haccessing, if_true]

/-- Otherwise the processor makes a step. -/
theorem turn_of_free (h : m.devices.dma.accessing = false) :
    m.turn =
      { state :=
          { m with
            cpu := (m.cpu.step m.clocked).state.1
            devices := (m.cpu.step m.clocked).state.2
            scanlineEnded := false }
        fault := (m.cpu.step m.clocked).fault } := by
  have haccessing : m.clocked.dma.accessing = false := h
  simp only [turn, runCpu, haccessing, Bool.false_eq_true, if_false]

/-! ## The outcome -/

theorem tick_eq : m.tick =
    match m.turn.fault with
    | none => .done m.turn.state.finishTick
    | some fault => .stopped fault m.turn.state := rfl

/-- **A tick stops** when the processor does. -/
theorem fault_tick : m.tick.fault = m.turn.fault := by
  rw [tick_eq]
  cases m.turn.fault <;> rfl

variable {m}

theorem state_of_stopped (h : m.turn.fault ≠ none) : m.tick.state = m.turn.state := by
  rw [tick_eq]
  cases hfault : m.turn.fault with
  | none => exact absurd hfault h
  | some fault => rfl

theorem state_of_done (h : m.turn.fault = none) : m.tick.state = m.turn.state.finishTick := by
  rw [tick_eq, h]
  rfl

/-! ## DMA -/

variable (m)

/-- What the step of DMA finds. -/
def front : Dma.System :=
  ⟨m.turn.state.devices.dma, m.turn.state.devices.memory, m.turn.state.devices.gpu.step.2⟩

/-- What a tick leaves of DMA, memory and GPU. -/
theorem front_tick (h : m.turn.fault = none) :
    (⟨m.tick.state.devices.dma, m.tick.state.devices.memory, m.tick.state.devices.gpu⟩ :
      Dma.System) = m.front.move .dma := by
  rw [state_of_done h, finishTick, Devices.runVideoAndDma, front, Dma.System.move]

end PlayStation.Machine

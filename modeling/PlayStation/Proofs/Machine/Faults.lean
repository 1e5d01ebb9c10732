/-
  What STOPS a machine.

  A program cannot stop a machine but with an instruction that is not executed.  Memory and devices
  refuse an aligned access only where nothing lies, which is an exception, and DMA that is asked for
  something impossible is done at once.  What a tick that stops leaves is the machine in front of
  that instruction: the counters have run and a branch target may have been taken up, but memory,
  registers and the counts of steps and ticks are what they were.
-/
import PlayStation.Proofs.Machine.Devices
import PlayStation.Proofs.Machine.Tick

namespace PlayStation

/-- A processor in front of an action has its registers as they were. -/
theorem Cpu.frame_ready (cpu : Cpu) (i : Instruction) :
    (cpu.ready i).currentPc = cpu.pc ∧ (cpu.ready i).regs = cpu.regs ∧
    (cpu.ready i).hiLo = cpu.hiLo ∧ (cpu.ready i).system = cpu.system ∧
    (cpu.ready i).steps = cpu.steps := by
  unfold ready redirect
  split <;> exact ⟨rfl, rfl, rfl, rfl, rfl⟩

namespace Machine

variable (m : Machine)

/-- **A tick stops** when the processor has the bus and fetches a word that is not executed. -/
theorem fault_turn_iff (fault : Fault) : m.turn.fault = some fault ↔
    m.devices.dma.accessing = false ∧
    ∃ word, m.cpu.Fetches m.clocked word ∧ m.cpu.Unexecuted ⟨word⟩ ∧
      fault = .unimplemented word m.cpu.pc := by
  cases haccessing : m.devices.dma.accessing with
  | true =>
    rw [m.turn_of_accessing haccessing]
    exact ⟨nofun, fun h => nomatch h.1⟩
  | false =>
    rw [m.turn_of_free haccessing, eq_self, true_and]
    exact Cpu.fault_step_iff Devices.obliging_devices

variable {m} in
/-- Where it stops, only the fetch has happened in the processor's turn. -/
theorem turn_of_unexecuted {word : UInt32} (haccessing : m.devices.dma.accessing = false)
    (hfetches : m.cpu.Fetches m.clocked word) (hword : m.cpu.Unexecuted ⟨word⟩) :
    m.turn.state =
      { m with
        cpu := m.cpu.ready ⟨word⟩
        devices := (Bus.load .word m.cpu.pc m.clocked).2
        scanlineEnded := false } := by
  rw [m.turn_of_free haccessing, Cpu.step_of_unexecuted hfetches hword]
  rfl

/-- **The only fault** of a machine is a word that is not executed: with that, a tick stops, and
leaves memory, registers and counts as they were; and so does every step of a processor that fetches
one. -/
theorem fault_tick_iff :
    (∀ fault, m.tick.fault = some fault ↔
      m.devices.dma.accessing = false ∧
      ∃ word, m.cpu.Fetches m.clocked word ∧ m.cpu.Unexecuted ⟨word⟩ ∧
        fault = .unimplemented word m.cpu.pc) ∧
    (m.tick.fault ≠ none →
      let stopped := m.tick.state
      stopped.cpu.currentPc = m.cpu.pc ∧ stopped.devices.memory = m.devices.memory ∧
      stopped.cpu.regs = m.cpu.regs ∧ stopped.cpu.hiLo = m.cpu.hiLo ∧
      stopped.cpu.system = m.cpu.system ∧ stopped.cpu.steps = m.cpu.steps ∧
      stopped.ticks = m.ticks) ∧
    ∀ (β : Type) [Bus β] (cpu : Cpu) (bus : β) (word : UInt32),
      cpu.Fetches bus word → cpu.Unexecuted ⟨word⟩ →
        (cpu.step bus).fault = some (.unimplemented word cpu.pc) := by
  refine ⟨fun fault => ?_, fun hstopped => ?_, fun β _ cpu bus word hfetches hword => ?_⟩
  · rw [fault_tick]
    exact m.fault_turn_iff fault
  · rw [fault_tick] at hstopped
    obtain ⟨fault, hfault⟩ := Option.ne_none_iff_exists'.1 hstopped
    obtain ⟨haccessing, word, hfetches, hword, -⟩ := (m.fault_turn_iff fault).1 hfault
    obtain ⟨hpc, hregs, hhiLo, hsystem, hsteps⟩ := m.cpu.frame_ready ⟨word⟩
    rw [state_of_stopped hstopped, turn_of_unexecuted haccessing hfetches hword]
    exact ⟨hpc, m.clocked.memory_load .word m.cpu.pc, hregs, hhiLo, hsystem, hsteps, rfl⟩
  · rw [Cpu.step_of_unexecuted hfetches hword]
    rfl

end Machine

end PlayStation

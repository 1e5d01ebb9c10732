/-
  The states a MACHINE can be in.

  A machine is switched on, ticks, and is reset.  Between ticks its owner can load a BIOS, do with
  the processor or the GPU what they like, and access the bus as the processor does.  A state is
  `Reachable` when these lead to it.

  Whatever happens, it comes down to operations of the parts: the DMA controller and the GPU of a
  reachable machine are reachable themselves (`Reachable.dma`, `Reachable.gpu`).
-/
import PlayStation.Proofs.Machine.CommandPort

namespace PlayStation

/-! ## Accesses to DMA -/

/-- An access to the bus is an operation of the DMA controller, or leaves it alone. -/
theorem Devices.dma_perform (d : Devices) (r : Request) :
    (r.perform d).dma = d.dma ∨ ∃ o : Dma.Operation, (r.perform d).dma = d.dma.perform o := by
  cases r with
  | load width address =>
    left
    show (Bus.load width address d).2.dma = d.dma
    cases hregister : DeviceRegister.of? (physical address) with
    | none => rw [d.load_of_memory hregister]
    | some register =>
      cases haligned : width.isAligned address with
      | false => rw [d.load_of_misaligned hregister haligned]
      | true =>
        rw [d.load_of_register hregister haligned]
        cases register <;> rfl
  | store width address value =>
    show (Bus.store width address value d).state.dma = d.dma ∨
      ∃ o : Dma.Operation, (Bus.store width address value d).state.dma = d.dma.perform o
    cases hregister : DeviceRegister.of? (physical address) with
    | none =>
      rw [d.store_of_memory hregister]
      exact .inl rfl
    | some register =>
      cases haligned : width.isAligned address with
      | false =>
        rw [d.store_of_misaligned hregister haligned]
        exact .inl rfl
      | true =>
        rw [d.store_of_register hregister haligned]
        cases register with
        | dma offset =>
          right
          cases width with
          | word => exact ⟨.write offset _, rfl⟩
          | half => exact ⟨.writeLanes offset _ _, rfl⟩
          | byte => exact ⟨.writeLanes offset _ _, rfl⟩
        | _ => exact .inl rfl

theorem Devices.reachable_dma_perform {d : Devices} (h : Dma.Reachable d.dma) (r : Request) :
    Dma.Reachable (r.perform d).dma := by
  rcases d.dma_perform r with hsame | ⟨o, hoperation⟩
  · rw [hsame]
    exact h
  · rw [hoperation]
    exact h.perform o

theorem Devices.reachable_dma_performAll (requests : List Request) : ∀ {d : Devices},
    Dma.Reachable d.dma → Dma.Reachable (PlayStation.performAll d requests).dma := by
  induction requests with
  | nil => exact fun h => h
  | cons r requests ih => exact fun h => ih (reachable_dma_perform h r)

/-- A step of DMA in turn with the others is an operation of the controller. -/
theorem Dma.System.dma_move_dma (s : Dma.System) :
    (s.move .dma).dma = s.dma.perform (.step s.memory s.gpu) := rfl

namespace Machine

/-- A state that ticks lead to from power-on, with what can be done with a machine between them. -/
inductive Reachable : Machine → Prop
  | powerOn (standard : Gpu.VideoStandard) : Reachable (powerOn standard)
  /-- A tick that returns or stops. -/
  | tick {m : Machine} (h : Reachable m) : Reachable m.tick.state
  | reset {m : Machine} (h : Reachable m) : Reachable m.reset
  | loadBios {m n : Machine} (h : Reachable m) (path : String) (image : Option ByteArray)
      (hload : m.loadBiosFile path image = .ok n) : Reachable n
  /-- The bus is accessed from outside. -/
  | access {m : Machine} (h : Reachable m) (r : Request) :
      Reachable { m with devices := r.perform m.devices }
  /-- The processor is changed from outside. -/
  | setCpu {m : Machine} (h : Reachable m) (cpu : Cpu) : Reachable { m with cpu }
  /-- Something is done with the GPU from outside. -/
  | useGpu {m : Machine} (h : Reachable m) (o : Gpu.Operation) :
      Reachable { m with devices := { m.devices with gpu := m.devices.gpu.perform o } }

variable {m : Machine}

/-- A BIOS changes memory alone. -/
theorem devices_loadBiosFile {n : Machine} {path : String} {image : Option ByteArray}
    (h : m.loadBiosFile path image = .ok n) :
    n.devices.dma = m.devices.dma ∧ n.devices.gpu = m.devices.gpu := by
  unfold loadBiosFile at h
  cases hmemory : m.devices.memory.loadBiosFile path image with
  | error fault =>
    rw [hmemory] at h
    cases h
  | ok memory =>
    rw [hmemory] at h
    cases h
    exact ⟨rfl, rfl⟩

theorem reachable_dma_turn (h : Dma.Reachable m.devices.dma) :
    Dma.Reachable m.turn.state.devices.dma := by
  cases haccessing : m.devices.dma.accessing with
  | true =>
    rw [m.turn_of_accessing haccessing]
    exact h
  | false =>
    rw [m.turn_of_free haccessing]
    show Dma.Reachable (m.cpu.step m.clocked).state.2.dma
    rw [Cpu.bus_step]
    exact Devices.reachable_dma_performAll _ (d := m.clocked) h

/-- **The DMA controller** of a reachable machine is reachable. -/
theorem Reachable.dma (h : Reachable m) : Dma.Reachable m.devices.dma := by
  induction h with
  | powerOn standard => exact .reset
  | @tick m _ ih =>
    have hturn := reachable_dma_turn ih
    cases hfault : m.turn.fault with
    | none =>
      have hfront := congrArg Dma.System.dma (m.front_tick hfault)
      rw [show m.tick.state.devices.dma = _ from hfront, m.front.dma_move_dma]
      exact hturn.perform (.step m.front.memory m.front.gpu)
    | some fault =>
      rw [state_of_stopped (by rw [hfault]; exact nofun)]
      exact hturn
  | reset _ _ => exact .reset
  | loadBios _ path image hload ih =>
    rw [(devices_loadBiosFile hload).1]
    exact ih
  | access _ r ih => exact Devices.reachable_dma_perform ih r
  | setCpu _ cpu ih => exact ih
  | useGpu _ o ih => exact ih

/-- **The GPU** of a reachable machine is reachable. -/
theorem Reachable.gpu (h : Reachable m) : Gpu.Reachable m.devices.gpu := by
  induction h with
  | powerOn standard => exact Gpu.Reachable.powerOn.perform (.selectStandard standard)
  | @tick m _ ih =>
    cases hfault : m.turn.fault with
    | none =>
      have hfront := congrArg Dma.System.gpu (m.front_tick hfault)
      rw [show m.tick.state.devices.gpu = _ from hfront]
      exact Dma.System.reachable_move_dma (reachable_front ih)
    | some fault =>
      rw [state_of_stopped (by rw [hfault]; exact nofun)]
      exact reachable_turn ih
  | reset _ ih => exact ih.perform .reset
  | loadBios _ path image hload ih =>
    rw [(devices_loadBiosFile hload).2]
    exact ih
  | access _ r ih =>
    rw [Devices.gpu_perform]
    exact ih.performAll
  | setCpu _ cpu ih => exact ih
  | useGpu _ o ih => exact ih.perform o

end Machine

end PlayStation

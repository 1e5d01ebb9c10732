/-
  What stays CONFIGURED.

  The owner of a machine decides on three things when it is built: the BIOS, the video standard, and
  whether somebody watches what is drawn.  Programs have no say in them.  No access reaches the BIOS
  image, no GP0 or GP1 word changes the standard that the beam runs under (the display-mode word only
  sets a status flag), and a renderer that ignores everything has nothing to remember.

  So a machine stays `Configured` as it was, through ticks that return or stop and through anything
  done with it from outside, short of deciding anew.
-/
import PlayStation.Proofs.Gpu.Core
import PlayStation.Proofs.Machine.Devices
import PlayStation.Proofs.Machine.Tick

namespace PlayStation

/-! ## The GPU -/

namespace Gpu

/-- Nobody watches what is drawn, and the beam runs under a standard. -/
structure Configured (standard : VideoStandard) (g : Gpu) : Prop where
  renderer : g.renderer = .null
  standard : g.beam.standard = standard

/-- The operation uses the GPU, and does not configure it. -/
def Operation.isUse : Operation → Bool
  | .attach _ | .selectStandard _ => false
  | .queue _ | .control _ | .read | .step | .reset | .poke _ _ _ => true

namespace Configured

variable {standard : VideoStandard} {g : Gpu}

theorem render (h : g.Configured standard) (call : RenderCall) :
    (g.render call).Configured standard := by
  refine ⟨?_, h.standard⟩
  rw [Gpu.render, h.renderer]
  rfl

theorem consume (h : g.Configured standard) : g.consume.Configured standard := by
  obtain ⟨hbeam, -, hrenderer⟩ := g.onlyDraws_consume
  refine ⟨?_, (congrArg Beam.standard hbeam).trans h.standard⟩
  rcases hrenderer with hsame | ⟨call, -, htold⟩
  · rw [hsame, h.renderer]
  · rw [htold, h.renderer]
    rfl

theorem standard_advance (b : Beam) : b.advance.2.standard = b.standard := by
  unfold Beam.advance
  split <;> rfl

theorem advanceBeam (h : g.Configured standard) : g.advanceBeam.2.Configured standard := by
  have hstandard : g.beam.advance.2.standard = standard :=
    (standard_advance g.beam).trans h.standard
  unfold Gpu.advanceBeam
  simp only
  split
  · refine render ?_ _
    exact ⟨h.renderer, hstandard⟩
  · exact ⟨h.renderer, hstandard⟩

theorem step (h : g.Configured standard) : g.step.2.Configured standard :=
  ⟨h.advanceBeam.consume.renderer, h.advanceBeam.consume.standard⟩

theorem control (h : g.Configured standard) (w : UInt32) :
    (g.control w).Configured standard := by
  unfold Gpu.control
  split
  case h_6 =>
    refine render ?_ _
    exact ⟨h.renderer, h.standard⟩
  case h_11 =>
    split
    · unfold latchInfo
      split <;> exact ⟨h.renderer, h.standard⟩
    · exact h
  all_goals exact ⟨h.renderer, h.standard⟩

theorem readWord (h : g.Configured standard) : g.readWord.2.Configured standard := by
  unfold Gpu.readWord
  split
  · exact h
  · simp only
    split <;> exact ⟨h.renderer, h.standard⟩

/-- **Use** leaves the configuration of a GPU alone. -/
theorem perform (h : g.Configured standard) {o : Operation} (ho : o.isUse = true) :
    (g.perform o).Configured standard := by
  cases o with
  | queue word => exact ⟨h.renderer, h.standard⟩
  | control word => exact h.control word
  | read => exact h.readWord
  | step => exact h.step
  | reset => exact ⟨h.renderer, h.standard⟩
  | poke x y pixel => exact ⟨h.renderer, h.standard⟩
  | selectStandard standard => cases ho
  | attach renderer => cases ho

theorem performAll {operations : List Operation} (ho : ∀ o ∈ operations, o.isUse = true) :
    ∀ {g : Gpu}, g.Configured standard → (g.performAll operations).Configured standard := by
  induction operations with
  | nil => exact fun h => h
  | cons o operations ih =>
    obtain ⟨hfirst, hrest⟩ := List.forall_mem_cons.1 ho
    exact fun h => ih hrest (h.perform hfirst)

end Configured

end Gpu

/-! ## Memory -/

/-- Stores to the BIOS are ignored. -/
theorem Memory.bios_write (m : Memory) (width : AccessWidth) (address value : UInt32) :
    (m.write width address value).state.bios = m.bios := by
  unfold Memory.write
  split
  · rfl
  · simp only
    split <;> rfl

/-! ## Devices -/

/-- What programs ask of the GPU is use. -/
theorem Request.isUse_operation (r : Request) : ∀ o ∈ r.operation?, o.isUse = true := by
  intro o ho
  have haccess := r.isAccess_operation o ho
  cases o with
  | selectStandard standard => cases haccess
  | attach renderer => cases haccess
  | _ => rfl

namespace Devices

/-- The devices have a BIOS, and the GPU is configured. -/
structure Configured (bios : Vector UInt8 biosSize) (standard : Gpu.VideoStandard) (d : Devices) :
    Prop where
  bios : d.memory.bios = bios
  gpu : d.gpu.Configured standard

namespace Configured

variable {bios : Vector UInt8 biosSize} {standard : Gpu.VideoStandard} {d : Devices}

theorem bios_request (d : Devices) (r : Request) : (r.perform d).memory.bios = d.memory.bios := by
  cases r with
  | load width address => exact congrArg Memory.bios (d.memory_load width address)
  | store width address value =>
    show (Bus.store width address value d).state.memory.bios = _
    cases hregister : DeviceRegister.of? (physical address) with
    | none =>
      rw [d.store_of_memory hregister]
      exact d.memory.bios_write width address value
    | some register =>
      cases haligned : width.isAligned address with
      | false =>
        rw [d.store_of_misaligned hregister haligned]
        rfl
      | true =>
        rw [d.store_of_register hregister haligned]
        cases register with
        | dma offset => cases width <;> rfl
        | _ => rfl

theorem request (h : d.Configured bios standard) (r : Request) :
    (r.perform d).Configured bios standard where
  bios := (bios_request d r).trans h.bios
  gpu := by
    rw [gpu_perform]
    exact Gpu.Configured.performAll
      (fun o ho => r.isUse_operation o (Option.mem_toList.1 ho)) h.gpu

theorem requests (requests : List Request) : ∀ {d : Devices}, d.Configured bios standard →
    (PlayStation.performAll d requests).Configured bios standard := by
  induction requests with
  | nil => exact fun h => h
  | cons r requests ih => exact fun h => ih (h.request r)

theorem runVideoAndDma (h : d.Configured bios standard) :
    d.runVideoAndDma.2.Configured bios standard := by
  -- DMA finds the GPU behind its step
  let s : Dma.System := ⟨d.dma, d.memory, d.gpu.step.2⟩
  have hgpu : s.gpu.Configured standard := h.gpu.step
  suffices hmove : (s.move .dma).memory.bios = bios ∧ (s.move .dma).gpu.Configured standard from
    ⟨hmove.1, hmove.2⟩
  rw [s.memory_move_dma, s.gpu_move_dma]
  cases s.cycle? with
  | none => exact ⟨h.bios, hgpu⟩
  | some e =>
    constructor
    · show (e.store s.memory).bios = bios
      unfold Dma.BusCycle.store
      split <;> exact h.bios
    · show (e.deliver s.gpu).Configured standard
      unfold Dma.BusCycle.deliver
      split
      · exact hgpu.perform (o := .queue e.word) rfl
      · exact hgpu.perform (o := .queue e.word) rfl
      · exact hgpu.readWord
      · exact hgpu
      · exact hgpu

end Configured

end Devices

/-! ## Machines -/

namespace Machine

variable {bios : Vector UInt8 biosSize} {standard : Gpu.VideoStandard} {m : Machine}

theorem configured_turn (h : m.devices.Configured bios standard) :
    m.turn.state.devices.Configured bios standard := by
  have hclocked : m.clocked.Configured bios standard := ⟨h.bios, h.gpu⟩
  cases haccessing : m.devices.dma.accessing with
  | true =>
    rw [m.turn_of_accessing haccessing]
    exact hclocked
  | false =>
    rw [m.turn_of_free haccessing]
    show (m.cpu.step m.clocked).state.2.Configured bios standard
    rw [Cpu.bus_step]
    exact hclocked.requests _

/-- **A tick** leaves the configuration alone, whether it returns or stops. -/
theorem configured_tick (h : m.devices.Configured bios standard) :
    m.tick.state.devices.Configured bios standard := by
  cases hfault : m.turn.fault with
  | none =>
    rw [state_of_done hfault]
    exact (configured_turn h).runVideoAndDma
  | some fault =>
    rw [state_of_stopped (by rw [hfault]; exact nofun)]
    exact configured_turn h

theorem configured_runFor (limit : Nat) : ∀ {m : Machine}, m.devices.Configured bios standard →
    (m.runFor limit).state.devices.Configured bios standard := by
  induction limit with
  | zero => exact fun h => h
  | succ limit ih =>
    intro m h
    have htick := configured_tick h
    unfold runFor
    rcases hm : m.tick with ⟨m', _ | fault⟩
    · rw [hm] at htick
      exact ih htick
    · rw [hm] at htick
      exact htick

theorem configured_stepInstructionWithin (limit : Nat) : ∀ {m : Machine},
    m.devices.Configured bios standard →
      (m.stepInstructionWithin limit).state.devices.Configured bios standard := by
  induction limit with
  | zero => exact fun h => h
  | succ limit ih =>
    intro m h
    have htick := configured_tick h
    unfold stepInstructionWithin
    rcases hm : m.tick with ⟨m', _ | fault⟩
    · rw [hm] at htick
      simp only
      split
      · exact ih htick
      · exact htick
    · rw [hm] at htick
      exact htick

end Machine

end PlayStation

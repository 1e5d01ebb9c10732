/-
  VIDEO TIMING of a machine.

  Tick after tick the beam moves by a cycle, and three parties wait for it.  The renderer is shown a
  frame when the display goes blank, the interrupt controller is told of it, and the counters are
  stepped by a line when one has ended, one tick later.

  1. **Who moves the beam** (`video_tick`): of all that happens in a tick, only the step of the GPU.
     The processor and DMA reach the GPU by accesses, and no access moves the beam.

  2. **Who raises VBLANK** (`vblankPending_tick`): again only the step of the GPU.  The counters and DMA
     raise other sources, and the processor can only drop some.

  3. **Who steps the counters** (`stepsCounters_tick`): each tick does so once, in front of the
     processor's turn, by one cycle and by the line that ended in the tick before, if one did.  What
     follows the processor's turn leaves them alone.

  4. **A run** (`Timed`) is ticks that return, with anything in between but a reset, another video
     standard, or a tick by other means.  By induction on it the beam stands where the number of
     ticks says, and the end of a line is on its way to the counters just behind the ticks that are
     multiples of its length (`Timed.beam_and_scanlineEnded`).
-/
import Mathlib.Algebra.GroupWithZero.Nat
import PlayStation.Proofs.Gpu.Beam
import PlayStation.Proofs.Machine.CommandPort
import PlayStation.Proofs.Machine.PowerCycle
import PlayStation.Proofs.Machine.Stepping

namespace PlayStation

/-! ## The VBLANK source -/

namespace IrqSet

/-- VBLANK is among the sources. -/
def hasVblank (s : IrqSet) : Bool := s.bits.toBitVec.getLsbD 0

theorem hasVblank_union (a b : IrqSet) : (a.union b).hasVblank = (a.hasVblank || b.hasVblank) :=
  BitVec.getLsbD_or

theorem hasVblank_inter (a b : IrqSet) : (a.inter b).hasVblank = (a.hasVblank && b.hasVblank) :=
  BitVec.getLsbD_and

theorem hasVblank_when (a : IrqSet) (condition : Bool) :
    (a.when condition).hasVblank = (condition && a.hasVblank) := by
  cases condition with
  | false => exact BitVec.getLsbD_zero
  | true => rfl

/-- Another source is not VBLANK, raised or not. -/
theorem hasVblank_when_other {a : IrqSet} (h : a.hasVblank = false) (condition : Bool) :
    (a.when condition).hasVblank = false := by
  rw [hasVblank_when, h, Bool.and_false]

end IrqSet

/-- Software can drop VBLANK, and not raise it. -/
theorem InterruptController.hasVblank_write {c : InterruptController} {offset value : UInt32}
    (h : (c.write offset value).status.hasVblank = true) : c.status.hasVblank = true := by
  unfold write at h
  split at h
  · rw [acknowledge, IrqSet.hasVblank_inter, Bool.and_eq_true] at h
    exact h.1
  · exact h

/-- The counters raise other sources. -/
theorem Timers.hasVblank_step (ts : Timers) (cycles scanlines : Nat) :
    (ts.step cycles scanlines).1.hasVblank = false := by
  have h₀ := IrqSet.hasVblank_when_other (a := .timer0) rfl
  have h₁ := IrqSet.hasVblank_when_other (a := .timer1) rfl
  have h₂ := IrqSet.hasVblank_when_other (a := .timer2) rfl
  simp only [step, IrqSet.hasVblank_union, h₀, h₁, h₂]
  rfl

namespace Devices

/-- VBLANK is pending. -/
def vblankPending (d : Devices) : Bool := d.interrupts.status.hasVblank

/-- No access raises VBLANK. -/
theorem vblankPending_perform {d : Devices} {r : Request}
    (h : (r.perform d).vblankPending = true) : d.vblankPending = true := by
  cases r with
  | load width address =>
    have h' : (Bus.load width address d).2.vblankPending = true := h
    cases hregister : DeviceRegister.of? (physical address) with
    | none => rwa [d.load_of_memory hregister] at h'
    | some register =>
      cases haligned : width.isAligned address with
      | false => rwa [d.load_of_misaligned hregister haligned] at h'
      | true =>
        rw [d.load_of_register hregister haligned] at h'
        cases register <;> exact h'
  | store width address value =>
    have h' : (Bus.store width address value d).state.vblankPending = true := h
    cases hregister : DeviceRegister.of? (physical address) with
    | none => rwa [d.store_of_memory hregister] at h'
    | some register =>
      cases haligned : width.isAligned address with
      | false => rwa [d.store_of_misaligned hregister haligned] at h'
      | true =>
        rw [d.store_of_register hregister haligned] at h'
        cases register with
        | interrupts offset => exact InterruptController.hasVblank_write h'
        | dma offset => cases width <;> exact h'
        | _ => exact h'

theorem vblankPending_performAll (requests : List Request) : ∀ {d : Devices},
    (PlayStation.performAll d requests).vblankPending = true → d.vblankPending = true := by
  induction requests with
  | nil => exact fun h => h
  | cons r requests ih => exact fun h => vblankPending_perform (ih h)

/-- The counters do not raise it. -/
theorem vblankPending_runTimers (d : Devices) (scanlines : Nat) :
    (d.runTimers scanlines).vblankPending = d.vblankPending := by
  show ((d.interrupts.status).union (d.timers.step 1 scanlines).1).hasVblank = _
  rw [IrqSet.hasVblank_union, d.timers.hasVblank_step, Bool.or_false]
  rfl

/-- **The GPU and DMA** raise it when the beam says so. -/
theorem vblankPending_runVideoAndDma (d : Devices) :
    d.runVideoAndDma.2.vblankPending =
      (d.vblankPending || d.gpu.beam.advance.1.vblank) := by
  have hgpu := IrqSet.hasVblank_when_other (a := .gpu) rfl
  have hdma := IrqSet.hasVblank_when_other (a := .dma) rfl
  show ((d.interrupts.status.union ((IrqSet.vblank.when d.gpu.step.1.vblank).union
    (IrqSet.gpu.when d.gpu.step.1.irq))).union (IrqSet.dma.when _)).hasVblank = _
  simp only [IrqSet.hasVblank_union, hgpu, hdma, IrqSet.hasVblank_when, d.gpu.video_step.2.1,
    Bool.or_false]
  exact congrArg (d.vblankPending || ·) (Bool.and_true _)

end Devices

/-- A step of DMA moves no beam and shows no frame. -/
theorem Dma.System.video_move_dma (s : Dma.System) : (s.move .dma).gpu.video = s.gpu.video := by
  rw [s.gpu_move_dma]
  cases s.cycle? with
  | none => rfl
  | some e =>
    show (e.deliver s.gpu).video = _
    unfold Dma.BusCycle.deliver
    cases e.access with
    | pull address => exact s.gpu.video_readWord
    | _ => rfl

namespace Machine

variable (m : Machine)

/-! ## A tick -/

/-- Nor does the processor's turn. -/
theorem video_turn : m.turn.state.devices.gpu.video = m.devices.gpu.video := by
  rw [gpu_turn]
  refine Gpu.video_performAll ?_ _
  unfold gpuOperations
  split
  · exact fun o ho => absurd ho List.not_mem_nil
  · intro o ho
    obtain ⟨r, -, hr⟩ := List.mem_filterMap.1 ho
    exact r.isAccess_operation o hr

/-- The processor's turn does not raise VBLANK. -/
theorem vblankPending_turn (h : m.turn.state.devices.vblankPending = true) :
    m.devices.vblankPending = true := by
  rw [← m.devices.vblankPending_runTimers (if m.scanlineEnded then 1 else 0)]
  cases haccessing : m.devices.dma.accessing with
  | true => rwa [m.turn_of_accessing haccessing] at h
  | false =>
    rw [m.turn_of_free haccessing] at h
    have hstep : (m.cpu.step m.clocked).state.2.vblankPending = true := h
    rw [Cpu.bus_step] at hstep
    exact Devices.vblankPending_performAll _ hstep

variable {m}

/-- **A tick** moves the beam by a cycle, and shows a frame if the display goes blank. -/
theorem video_tick (hdone : m.tick.fault = none) :
    ∃ shown : List Gpu.Frame,
      shown.map Gpu.Frame.number =
        (if m.devices.gpu.beam.advance.1.vblank = true then [m.devices.gpu.beam.advance.2.frame]
          else []) ∧
      m.tick.state.devices.gpu.video =
        (m.devices.gpu.beam.advance.2, m.devices.gpu.renderer.frames?.map (· ++ shown)) := by
  obtain ⟨hbeam, hframes⟩ := Prod.mk.inj m.video_turn
  obtain ⟨shown, hnumber, hstep⟩ := m.turn.state.devices.gpu.video_step.2.2
  rw [hbeam] at hnumber
  refine ⟨shown, hnumber, ?_⟩
  rw [gpu_tick hdone, m.front.video_move_dma, ← hbeam, ← hframes]
  exact hstep

/-- It says in the interrupt controller that the display has gone blank. -/
theorem vblankPending_tick (hdone : m.tick.fault = none) :
    m.tick.state.devices.vblankPending =
      (m.turn.state.devices.vblankPending || m.devices.gpu.beam.advance.1.vblank) := by
  have hbeam : m.turn.state.devices.gpu.beam = m.devices.gpu.beam :=
    congrArg Prod.fst m.video_turn
  rw [fault_tick] at hdone
  rw [state_of_done hdone, ← hbeam]
  exact m.turn.state.devices.vblankPending_runVideoAndDma

/-- It remembers that a line has ended. -/
theorem scanlineEnded_tick (hdone : m.tick.fault = none) :
    m.tick.state.scanlineEnded = m.devices.gpu.beam.advance.1.hblank := by
  have hbeam : m.turn.state.devices.gpu.beam = m.devices.gpu.beam :=
    congrArg Prod.fst m.video_turn
  rw [fault_tick] at hdone
  rw [state_of_done hdone, ← hbeam]
  exact m.turn.state.devices.gpu.video_step.1

/-- The tick steps the counters by a cycle and by so many ends of lines.  What they ask for is raised,
and from there the processor has its turn.  What follows leaves the counters alone. -/
def StepsCounters (m : Machine) (lines : Nat) : Prop :=
  let stepped := m.devices.timers.step 1 lines
  let begun : Machine :=
    { m with
      devices := { m.devices with
        timers := stepped.2
        interrupts := m.devices.interrupts.raise stepped.1 }
      scanlineEnded := false }
  m.tick.state = begun.runCpu.state.finishTick ∧
    m.tick.state.devices.timers = begun.runCpu.state.devices.timers

/-- **A tick steps the counters** by the line that ended in the tick before, if one did. -/
theorem stepsCounters_tick (hdone : m.tick.fault = none) :
    m.StepsCounters (if m.scanlineEnded then 1 else 0) := by
  rw [fault_tick] at hdone
  have hstate : m.tick.state = m.turn.state.finishTick := state_of_done hdone
  exact ⟨hstate, congrArg (·.devices.timers) hstate⟩

/-! ## Runs -/

/-- The operation neither ticks nor resets, and leaves the video standard alone. -/
def Operation.isTimeless : Operation → Bool
  | .access _ | .changeCpu _ | .loadBios _ _ => true
  | .useGpu o => o.isTimeless
  | .tick | .run _ | .stepInstruction _ | .reset => false

/-- A run from a machine, with the machines in front of its ticks so far, the first one first.  Every
tick returns.  Between ticks, and in front of the first one, anything may be done with the machine
that takes no time. -/
inductive Timed (start : Machine) : List Machine → Machine → Prop
  | start : Timed start [] start
  | outside {past : List Machine} {m : Machine} (h : Timed start past m) (o : Operation)
      (ho : o.isTimeless = true) : Timed start past (m.perform o)
  | tick {past : List Machine} {m : Machine} (h : Timed start past m) (hdone : m.tick.fault = none) :
      Timed start (past ++ [m]) m.tick.state

/-- What takes no time leaves the beam and the mark of an ended line alone. -/
theorem perform_timeless (m : Machine) {o : Operation} (ho : o.isTimeless = true) :
    (m.perform o).devices.gpu.beam = m.devices.gpu.beam ∧
    (m.perform o).scanlineEnded = m.scanlineEnded := by
  cases o with
  | access r =>
    refine ⟨?_, rfl⟩
    have hvideo := Gpu.video_performAll (fun o ho => r.isAccess_operation o (Option.mem_toList.1 ho))
      m.devices.gpu
    rw [← m.devices.gpu_perform r] at hvideo
    exact congrArg Prod.fst hvideo
  | changeCpu change => exact ⟨rfl, rfl⟩
  | useGpu o => exact ⟨m.devices.gpu.beam_perform ho, rfl⟩
  | loadBios path image =>
    have hload : m.loadBiosFile path image = (m.devices.memory.loadBiosFile path image).map
        fun memory => { m with devices := { m.devices with memory } } := by
      unfold loadBiosFile
      cases m.devices.memory.loadBiosFile path image <;> rfl
    simp only [perform, hload]
    cases m.devices.memory.loadBiosFile path image <;> exact ⟨rfl, rfl⟩
  | _ => cases ho

namespace Timed

variable {start : Machine} {past : List Machine}

/-- **The beam** stands where the number of ticks says, and a line has just ended if that number is a
multiple of its length. -/
theorem beam_and_scanlineEnded (hbuilt : start.Built) (h : Timed start past m) :
    m.devices.gpu.beam = .behind start.devices.gpu.beam.standard past.length ∧
    (m.scanlineEnded = true ↔
      0 < past.length ∧ start.devices.gpu.beam.standard.cyclesPerLine ∣ past.length) := by
  induction h with
  | start =>
    rw [hbuilt.eq_new]
    refine ⟨?_, iff_of_false nofun fun h => absurd h.1 (Nat.lt_irrefl 0)⟩
    show Gpu.Beam.mk _ _ _ _ = .behind _ 0
    rw [Gpu.Beam.behind, Nat.zero_div, Nat.zero_mod, Nat.zero_mod]
    rfl
  | outside _ o ho ih =>
    obtain ⟨hbeam, hended⟩ := perform_timeless _ ho
    rw [hbeam, hended]
    exact ih
  | @tick past m _ hdone ih =>
    obtain ⟨shown, -, hvideo⟩ := video_tick hdone
    have hbeam : m.tick.state.devices.gpu.beam = _ := congrArg Prod.fst hvideo
    obtain ⟨hnext, hhblank, -⟩ :=
      Gpu.Beam.advance_behind start.devices.gpu.beam.standard past.length
    rw [hbeam, scanlineEnded_tick hdone, ih.1, List.length_append, List.length_singleton]
    exact ⟨hnext, hhblank.trans (and_iff_right (Nat.succ_pos _)).symm⟩

end Timed

/-- The ends of lines for which the tick behind `n` others steps the counters: one, if the last of the
others ended a line. -/
def edges (standard : Gpu.VideoStandard) (n : Nat) : Nat :=
  if 0 < n ∧ standard.cyclesPerLine ∣ n then 1 else 0

/-- There is one for each line that has ended, but for one that the last tick ended. -/
theorem sum_edges (standard : Gpu.VideoStandard) (n : Nat) :
    ((List.range n).map (edges standard)).sum = (n - 1) / standard.cyclesPerLine := by
  induction n with
  | zero => exact (Nat.zero_div _).symm
  | succ n ih =>
    rw [List.range_succ, List.map_append, List.map_singleton, List.sum_append, List.sum_singleton,
      ih, edges, Nat.add_sub_cancel]
    cases n with
    | zero => simp
    | succ n =>
      rw [Nat.add_sub_cancel, Nat.succ_div]
      simp only [Nat.succ_pos, true_and]

/-- What a tick does about the video signal when it is the one behind `n` others. -/
structure Punctual (standard : Gpu.VideoStandard) (n : Nat) (before : Machine) : Prop where
  /-- It knows whether a line ended in the tick before. -/
  ended : before.scanlineEnded = true ↔ 0 < n ∧ standard.cyclesPerLine ∣ n
  /-- The counters are stepped by that line. -/
  counters : before.StepsCounters (edges standard n)
  /-- The counters and the processor do not raise VBLANK. -/
  lowered : before.turn.state.devices.vblankPending = true → before.devices.vblankPending = true
  /-- The GPU raises it when the display goes blank. -/
  raised : before.tick.state.devices.vblankPending = true ↔
    standard.Blanks (n + 1) ∨ before.turn.state.devices.vblankPending = true
  /-- One frame is shown then, the one that the beam has counted. -/
  shown : standard.Blanks (n + 1) →
    ∃ frame : Gpu.Frame, frame.number = before.tick.state.devices.gpu.beam.frame ∧
      before.tick.state.devices.gpu.renderer.frames? =
        before.devices.gpu.renderer.frames?.map (· ++ [frame])
  /-- None is shown otherwise. -/
  unshown : ¬standard.Blanks (n + 1) →
    before.tick.state.devices.gpu.renderer.frames? = before.devices.gpu.renderer.frames?

/-- **A tick is punctual** if it finds the beam where it should be. -/
theorem punctual_of_beam {standard : Gpu.VideoStandard} {n : Nat}
    (hbeam : m.devices.gpu.beam = .behind standard n)
    (hended : m.scanlineEnded = true ↔ 0 < n ∧ standard.cyclesPerLine ∣ n)
    (hdone : m.tick.fault = none) : Punctual standard n m := by
  obtain ⟨hnext, -, hvblank⟩ := Gpu.Beam.advance_behind standard n
  obtain ⟨shown, hnumber, hvideo⟩ := video_tick hdone
  have hbehind : m.tick.state.devices.gpu.beam = _ := congrArg Prod.fst hvideo
  have hframes : m.tick.state.devices.gpu.renderer.frames? = _ := congrArg Prod.snd hvideo
  have hcounters := stepsCounters_tick hdone
  simp only [hended] at hcounters
  refine ⟨hended, hcounters, m.vblankPending_turn, ?_, ?_, ?_⟩
  · rw [vblankPending_tick hdone, hbeam, Bool.or_eq_true, hvblank, or_comm]
  · intro hblanks
    rw [hbeam, if_pos (hvblank.2 hblanks)] at hnumber
    obtain ⟨frame, rfl, hframe⟩ := List.map_eq_singleton_iff.1 hnumber
    exact ⟨frame, by rw [hframe, hbehind, hbeam], hframes⟩
  · intro hblanks
    rw [hbeam, if_neg (mt hvblank.1 hblanks)] at hnumber
    obtain rfl := List.map_eq_nil_iff.1 hnumber
    rw [hframes]
    simp only [List.append_nil, Option.map_id']

namespace Timed

variable {start : Machine} {past : List Machine}

/-- Every tick of a run is punctual. -/
theorem punctual (hbuilt : start.Built) (h : Timed start past m) : ∀ n before,
    past[n]? = some before → Punctual start.devices.gpu.beam.standard n before := by
  induction h with
  | start => exact fun n before hbefore => nomatch hbefore
  | outside _ o ho ih => exact ih
  | @tick past m hrun hdone ih =>
    intro n before hbefore
    rw [List.getElem?_append] at hbefore
    split at hbefore
    · exact ih n before hbefore
    · next hlast =>
      obtain ⟨hn, hm⟩ := List.getElem?_eq_some_iff.1 hbefore
      obtain rfl : n = past.length := by
        rw [List.length_singleton] at hn
        omega
      obtain rfl : m = before := by simpa using hm
      obtain ⟨hbeam, hended⟩ := hrun.beam_and_scanlineEnded hbuilt
      exact punctual_of_beam hbeam hended hdone

end Timed

/-- **Video timing is exact.**  Behind `N` ticks of a machine, whatever else is done with it, the beam
is in line `N / C`, counted modulo the lines of a frame, and has counted one frame for each of the
lines so far that began a blank.  Every tick was punctual, so in all of them the counters were
stepped by `(N - 1) / C` ends of lines. -/
theorem Timed.timing {start : Machine} {past : List Machine} (hbuilt : start.Built)
    (h : Timed start past m) :
    let standard := start.devices.gpu.beam.standard
    m.devices.gpu.beam.line =
      past.length / standard.cyclesPerLine % standard.linesPerFrame ∧
    m.devices.gpu.beam.frame = (List.range' 1 (past.length / standard.cyclesPerLine)).countP
      (fun k => k % standard.linesPerFrame = standard.vblankStart) ∧
    (∀ n before, past[n]? = some before → Punctual standard n before) ∧
    ((List.range past.length).map (edges standard)).sum =
      (past.length - 1) / standard.cyclesPerLine := by
  have hbeam := (h.beam_and_scanlineEnded hbuilt).1
  refine ⟨?_, ?_, h.punctual hbuilt, sum_edges _ _⟩
  · rw [hbeam]
    rfl
  · rw [hbeam]
    rfl

/-! ### Ticks while DMA has the bus -/

section Held

variable {start : Machine} {past : List Machine}

theorem Timed.performAll (requests : List Request) : ∀ {m : Machine}, Timed start past m →
    Timed start past { m with devices := PlayStation.performAll m.devices requests } := by
  induction requests with
  | nil => exact fun h => h
  | cons r requests ih => exact fun h => ih (h.outside (.access r) rfl)

/-- Ticks that return prolong a run. -/
theorem Timed.runFor (n : Nat) : ∀ {past : List Machine} {m : Machine}, Timed start past m →
    (m.runFor n).fault = none →
    Timed start (past ++ (List.range n).map fun k => (m.runFor k).state) (m.runFor n).state := by
  induction n with
  | zero =>
    intro past m h _
    rwa [List.range_zero, List.map_nil, List.append_nil]
  | succ n ih =>
    intro past m h hdone
    have htick : m.tick.fault = none := by
      rw [runFor_succ] at hdone
      rcases hout : m.tick with ⟨next, _ | fault⟩
      · rfl
      · rw [hout] at hdone
        cases hdone
    have hrest := ih (h.tick htick) (by rwa [runFor_of_done htick] at hdone)
    rw [List.append_assoc] at hrest
    rw [runFor_of_done htick, List.range_succ_eq_map, List.map_cons, List.map_map]
    have hshift : ((fun k => (m.runFor k).state) ∘ Nat.succ) =
        fun k => (m.tick.state.runFor k).state :=
      funext fun k => congrArg Outcome.state (runFor_of_done htick k)
    rw [hshift]
    exact hrest

end Held

/-- A GP1 word moves the displayed area, and then a recorder takes the place of the renderer. -/
def shown (m : Machine) : Machine :=
  (m.perform (.useGpu (.control 0x05000C00))).perform (.useGpu (.attach .recorder))

/-- That does not make DMA let go of the bus. -/
theorem held_shown (hreachable : Reachable m) (haccessing : m.devices.dma.accessing = true)
    (hendless : Dma.Endless m.traffic) (hdirection : m.devices.gpu.status.dmaDirection = 2) :
    m.shown.Held :=
  held_of_direction ((hreachable.useGpu (.control 0x05000C00)).useGpu (.attach .recorder))
    haccessing ⟨hendless.select, hendless.chain⟩ hdirection

/-- The machine behind `n + 1` ticks, in the first of which DMA takes the bus for a list that closes on
itself. -/
def looped (n : Nat) : Machine := (looping.shown.runFor n).state

theorem timed_looped (n : Nat) :
    Timed (powerOn .ntsc) (asking :: (List.range n).map looped) (looped n) := by
  obtain ⟨haccessing, hendless, hdirection⟩ := endless_looping
  have hheld : looping.shown.Held :=
    held_shown reachable_asking.tick haccessing hendless hdirection
  have hasking : Timed (powerOn .ntsc) [] asking :=
    (Timed.start.outside (.changeCpu fun cpu => { cpu with pc := 1 }) rfl).performAll _
  have hlooping : Timed (powerOn .ntsc) [asking] looping := hasking.tick (by decide +kernel)
  have hshown : Timed (powerOn .ntsc) [asking] looping.shown :=
    (hlooping.outside (.useGpu (.control 0x05000C00)) rfl).outside (.useGpu (.attach .recorder)) rfl
  exact hshown.runFor n (hheld.runFor n).1

theorem getElem?_looped {n k : Nat} (hk : k < n) :
    (asking :: (List.range n).map looped)[k + 1]? = some (looped k) := by
  rw [List.getElem?_cons_succ, List.getElem?_map, List.getElem?_range hk]
  rfl

/-- Behind 240 lines and a tick: the tick behind the first line stepped the counters by its end, and
the last tick but one raised VBLANK and showed the first frame. -/
theorem timing_looped :
    (looped (240 * 2172)).devices.gpu.beam.line = 240 ∧
    (looped (240 * 2172)).devices.gpu.beam.frame = 1 ∧
    (looped 2171).StepsCounters 1 ∧
    (looped (240 * 2172 - 2)).tick.state.devices.vblankPending = true ∧
    (∃ frame : Gpu.Frame,
      (looped (240 * 2172 - 2)).tick.state.devices.gpu.renderer.frames? =
        (looped (240 * 2172 - 2)).devices.gpu.renderer.frames?.map (· ++ [frame])) ∧
    ((List.range (240 * 2172 + 1)).map (edges .ntsc)).sum = 240 := by
  have hbuilt : (powerOn .ntsc).Built := ⟨fun _ => none, {}, rfl⟩
  have hstandard : (powerOn .ntsc).devices.gpu.beam.standard = .ntsc := rfl
  obtain ⟨hline, hframe, hpunctual, hsum⟩ := (timed_looped (240 * 2172)).timing hbuilt
  have hlength : (asking :: (List.range (240 * 2172)).map looped).length = 240 * 2172 + 1 := by
    rw [List.length_cons, List.length_map, List.length_range]
  rw [hlength, hstandard] at hline hframe hsum
  have hfirst := hpunctual (2171 + 1) (looped 2171) (getElem?_looped (by decide))
  have hblank := hpunctual (240 * 2172 - 2 + 1) (looped (240 * 2172 - 2))
    (getElem?_looped (by decide))
  rw [hstandard] at hfirst hblank
  have hedge : edges .ntsc (2171 + 1) = 1 := by decide
  have hblanks : Gpu.VideoStandard.ntsc.Blanks (240 * 2172 - 2 + 1 + 1) :=
    ⟨240, by decide, by decide⟩
  obtain ⟨frame, -, hshown⟩ := hblank.shown hblanks
  exact ⟨hline.trans (by decide), hframe.trans (by decide +kernel), hedge ▸ hfirst.counters,
    hblank.raised.2 (.inl hblanks), ⟨frame, hshown⟩, hsum.trans (by decide)⟩

end Machine

end PlayStation

/-
  SINGLE-STEPPING: ticks until the processor has taken a step.

  While DMA has the bus, a tick leaves the processor alone, and single-stepping goes on to the next
  one.  Whether it ever comes to an end is a question to DMA.

  1. **One tick.**  With the bus free, a tick stops or takes the processor one step further
     (`steps_tick_of_free`).  With the bus taken, it does neither, and is a step of the GPU and one
     of DMA on what they share with memory (`Quiet.traffic_tick`).

  2. **A hold that ends** (`steppedIn_of_holds`): DMA goes through its plan, one access a tick, and
     then the processor has its step.

  3. **A hold that does not end** (`Held`): of a list whose packets never come to the end marker,
     while the GPU is ready for every word.  There is no other, so single-stepping comes to an end
     just when the machine is not held (`steppedIn_iff`).
-/
import PlayStation.Proofs.Cpu.Registers
import PlayStation.Proofs.Dma.BusHold
import PlayStation.Proofs.Machine.Faults
import PlayStation.Proofs.Machine.Reachable

namespace PlayStation

/-! ## The count of steps -/

namespace Cpu

/-- No action counts a step. -/
theorem steps_act (cpu : Cpu) (a : Action) : (cpu.act a).steps = cpu.steps := by
  cases a with
  | write r value => rw [act, setReg_eq]
  | writeLater r value => rw [act, setRegLater_eq]
  | branch link target =>
    cases link with
    | none => cases target <;> rfl
    | some written =>
      have hset : (cpu.setReg written.1 written.2).steps = cpu.steps := by rw [setReg_eq]
      cases target <;> exact hset
  | _ => rfl

/-- **A step that returns** counts one. -/
theorem steps_step {β : Type} [Bus β] {cpu : Cpu} {bus : β} (h : (cpu.step bus).fault = none) :
    (cpu.step bus).state.1.steps = cpu.steps + 1 := by
  rcases step_cases cpu bus with ⟨i, a, bus', -, hstep⟩ | ⟨fault, bus', stopped, -, hstep⟩
  · rw [hstep]
    show ((cpu.ready i).act a).steps + 1 = _
    rw [steps_act, (cpu.frame_ready i).2.2.2.2]
  · rw [hstep] at h
    cases h

end Cpu

namespace Machine

variable {m : Machine} {n : Nat}

/-! ## One tick -/

/-- What DMA, memory and GPU are between ticks. -/
def traffic (m : Machine) : Dma.System := ⟨m.devices.dma, m.devices.memory, m.devices.gpu⟩

/-- What follows the processor's turn counts no step. -/
theorem steps_finishTick (m : Machine) : m.finishTick.cpu.steps = m.cpu.steps := rfl

/-- **With the bus free**, a tick stops, or the processor takes a step. -/
theorem steps_tick_of_free (h : m.devices.dma.accessing = false) :
    m.tick.fault ≠ none ∨ m.tick.state.cpu.steps = m.cpu.steps + 1 := by
  rw [fault_tick]
  cases hfault : m.turn.fault with
  | some fault => exact .inl (Option.some_ne_none fault)
  | none =>
    right
    rw [state_of_done hfault, steps_finishTick]
    rw [m.turn_of_free h] at hfault ⊢
    exact Cpu.steps_step hfault

/-- In its turn the processor does not stop, and leaves the devices alone. -/
structure Quiet (m : Machine) : Prop where
  done : m.turn.fault = none
  devices : m.turn.state.devices = m.clocked

section Quiet

variable (h : m.Quiet)

include h

theorem Quiet.fault_tick : m.tick.fault = none := m.fault_tick.trans h.done

/-- What DMA finds has seen a step of the GPU only. -/
theorem Quiet.front : m.front = m.traffic.move (.gpu .step) := by
  rw [Machine.front, h.devices]
  rfl

/-- **A quiet tick** is a step of the GPU and one of DMA. -/
theorem Quiet.traffic_tick : m.tick.state.traffic = m.front.move .dma := m.front_tick h.done

/-- The step of the GPU touches neither the controller nor memory. -/
theorem Quiet.holds_front {i : Dma.ChannelIndex} {as : List Dma.Access}
    (hholds : Dma.Holds m.traffic i as) : Dma.Holds m.front i as := by
  rw [h.front]
  exact ⟨hholds.select, hholds.plan, hholds.kind⟩

theorem Quiet.endless_front (hendless : Dma.Endless m.traffic) : Dma.Endless m.front := by
  rw [h.front]
  exact ⟨hendless.select, hendless.chain⟩

end Quiet

section Accessing

variable (h : m.devices.dma.accessing = true)

include h

/-- **With the bus taken**, the tick is quiet, and the processor takes no step. -/
theorem quiet_of_accessing : m.Quiet := by
  constructor <;> rw [m.turn_of_accessing h] <;> rfl

theorem steps_tick_of_accessing : m.tick.state.cpu.steps = m.cpu.steps := by
  rw [state_of_done (quiet_of_accessing h).done, steps_finishTick, m.turn_of_accessing h]
  rfl

end Accessing

/-! ## Some ticks -/

theorem runFor_succ (m : Machine) (n : Nat) : m.runFor (n + 1) =
    match m.tick with
    | ⟨next, none⟩ => next.runFor n
    | ⟨next, some fault⟩ => .stopped fault next := by
  rfl

theorem stepInstructionWithin_succ (m : Machine) (limit : Nat) :
    m.stepInstructionWithin (limit + 1) =
      match m.tick with
      | ⟨next, some fault⟩ => .stopped fault next
      | ⟨next, none⟩ =>
        if next.cpu.steps = m.cpu.steps then next.stepInstructionWithin limit else .done next := by
  rfl

theorem runFor_of_done (h : m.tick.fault = none) (n : Nat) :
    m.runFor (n + 1) = m.tick.state.runFor n := by
  rw [runFor_succ]
  rcases hout : m.tick with ⟨next, fault⟩
  rw [hout] at h
  obtain rfl : fault = none := h
  rfl

theorem runFor_one (m : Machine) : m.runFor 1 = m.tick := by
  rw [runFor_succ]
  rcases m.tick with ⟨next, none | fault⟩ <;> rfl

/-- Single-stepping goes on behind a tick that leaves the processor alone. -/
theorem stepInstructionWithin_of_accessing (h : m.devices.dma.accessing = true) (limit : Nat) :
    m.stepInstructionWithin (limit + 1) = m.tick.state.stepInstructionWithin limit := by
  have hfault := (quiet_of_accessing h).fault_tick
  have hsteps := steps_tick_of_accessing h
  rw [stepInstructionWithin_succ]
  rcases hout : m.tick with ⟨next, fault⟩
  rw [hout] at hfault hsteps
  obtain rfl : fault = none := hfault
  exact if_pos hsteps

/-- It is over with one that stops, or in which the processor takes a step. -/
theorem stepInstructionWithin_of_free (h : m.devices.dma.accessing = false) (limit : Nat) :
    m.stepInstructionWithin (limit + 1) = m.tick := by
  have hstep := steps_tick_of_free h
  rw [stepInstructionWithin_succ]
  rcases hout : m.tick with ⟨next, none | fault⟩
  · rw [hout] at hstep
    have hsteps : next.cpu.steps = m.cpu.steps + 1 := hstep.resolve_left fun hne => hne rfl
    refine if_neg ?_
    rw [hsteps]
    exact Nat.succ_ne_self _
  · rfl

/-- Single-stepping comes to an end with the `n`-th tick, whatever its limit: the tick stops, or the
processor has taken one step. -/
structure SteppedIn (m : Machine) (n : Nat) : Prop where
  returns : ∀ limit, n ≤ limit → m.stepInstructionWithin limit = m.runFor n
  outcome : (m.runFor n).fault ≠ none ∨ (m.runFor n).state.cpu.steps = m.cpu.steps + 1

/-- With the bus free, one tick is enough. -/
theorem steppedIn_one (h : m.devices.dma.accessing = false) : m.SteppedIn 1 where
  returns := by
    intro limit hle
    obtain ⟨more, rfl⟩ := Nat.exists_eq_add_of_le' hle
    rw [stepInstructionWithin_of_free h, runFor_one]
  outcome := by
    rw [runFor_one]
    exact steps_tick_of_free h

/-- With the bus taken, it is one tick more. -/
theorem SteppedIn.behind (hrest : m.tick.state.SteppedIn n) (h : m.devices.dma.accessing = true) :
    m.SteppedIn (n + 1) where
  returns := by
    intro limit hle
    obtain ⟨more, rfl⟩ := Nat.exists_eq_add_of_le' hle
    rw [← Nat.add_assoc, stepInstructionWithin_of_accessing h,
      hrest.returns _ (Nat.le_add_left n more), runFor_of_done (quiet_of_accessing h).fault_tick]
  outcome := by
    rw [runFor_of_done (quiet_of_accessing h).fault_tick, ← steps_tick_of_accessing h]
    exact hrest.outcome

/-- If the next tick releases the bus, it takes two. -/
theorem steppedIn_two (h : m.devices.dma.accessing = true)
    (hreleased : (m.front.move .dma).dma.accessing = false) : m.SteppedIn 2 := by
  have hfree : m.tick.state.devices.dma.accessing = false :=
    (congrArg (·.dma.accessing) (quiet_of_accessing h).traffic_tick).trans hreleased
  exact (steppedIn_one hfree).behind h

/-! ## Holds that end -/

/-- **A channel with a plan** releases the bus at the end of it. -/
theorem steppedIn_of_holds {i : Dma.ChannelIndex} (as : List Dma.Access) : ∀ {m : Machine},
    m.devices.dma.accessing = true → Dma.Holds m.traffic i as →
    ∃ n ≤ as.length + 2, m.SteppedIn n := by
  induction as with
  | nil =>
    intro m h hholds
    refine ⟨2, Nat.le_refl 2, steppedIn_two h (eq_false_of_ne_true fun haccessing => ?_)⟩
    obtain ⟨a, rest, hsplit, -⟩ := ((quiet_of_accessing h).holds_front hholds).move haccessing
    cases hsplit
  | cons first as ih =>
    intro m h hholds
    cases haccessing : (m.front.move .dma).dma.accessing with
    | false => exact ⟨2, Nat.le_add_left 2 _, steppedIn_two h haccessing⟩
    | true =>
      obtain ⟨a, rest, hsplit, hnext⟩ := ((quiet_of_accessing h).holds_front hholds).move haccessing
      obtain ⟨-, rfl⟩ := List.cons.inj hsplit
      rw [← (quiet_of_accessing h).traffic_tick] at haccessing hnext
      obtain ⟨n, hle, hstepped⟩ := ih haccessing hnext
      refine ⟨n + 1, ?_, hstepped.behind h⟩
      rw [List.length_cons]
      omega

/-- **Unless a list has the bus that does not end**, single-stepping comes to an end. -/
theorem steppedIn_of_listEnds (hreachable : Reachable m)
    (hends : m.devices.dma.accessing = true → m.traffic.ListEnds) :
    ∃ n ≤ Dma.longest + 2, m.SteppedIn n := by
  cases h : m.devices.dma.accessing with
  | false => exact ⟨1, Nat.le_add_left 1 _, steppedIn_one h⟩
  | true =>
    cases haccessing : (m.front.move .dma).dma.accessing with
    | false => exact ⟨2, Nat.le_add_left 2 _, steppedIn_two h haccessing⟩
    | true =>
      rw [(quiet_of_accessing h).front] at haccessing
      obtain ⟨i, c, hselect, hstarted, -, -⟩ := Dma.System.accessing_move_iff.1 haccessing
      obtain ⟨as, hholds, hle⟩ := Dma.System.holds_of_select (s := m.traffic) hreachable.dma
        (hends h) hselect hstarted
      obtain ⟨n, hn, hstepped⟩ := steppedIn_of_holds as h hholds
      exact ⟨n, by omega, hstepped⟩

/-! ## Holds that do not end -/

/-- DMA has the bus for a list that does not end, and whenever its turn comes, the GPU is ready. -/
structure Held (m : Machine) : Prop where
  accessing : m.devices.dma.accessing = true
  endless : Dma.Endless m.traffic
  ready : ∀ n, Dma.Channel.listWaits (m.runFor n).state.front.gpu = false

/-- While the GPU is ready, a list that does not end keeps the bus. -/
theorem Quiet.endless_tick (h : m.Quiet) (hendless : Dma.Endless m.traffic)
    (hready : Dma.Channel.listWaits m.front.gpu = false) :
    m.tick.state.devices.dma.accessing = true ∧ Dma.Endless m.tick.state.traffic := by
  have hnext := (h.endless_front hendless).move hready
  rw [← h.traffic_tick] at hnext
  exact hnext

theorem Held.tick (h : m.Held) : m.tick.state.Held := by
  obtain ⟨haccessing, hendless⟩ :=
    (quiet_of_accessing h.accessing).endless_tick h.endless (h.ready 0)
  refine ⟨haccessing, hendless, fun n => ?_⟩
  have hready := h.ready (n + 1)
  rw [runFor_of_done (quiet_of_accessing h.accessing).fault_tick] at hready
  exact hready

/-- **A machine that is held** stays so: no tick stops, and the processor takes no step. -/
theorem Held.runFor (n : Nat) : ∀ {m : Machine}, m.Held →
    (m.runFor n).fault = none ∧ (m.runFor n).state.cpu.steps = m.cpu.steps := by
  induction n with
  | zero => exact fun _ => ⟨rfl, rfl⟩
  | succ n ih =>
    intro m h
    obtain ⟨hfault, hsteps⟩ := ih h.tick
    rw [runFor_of_done (quiet_of_accessing h.accessing).fault_tick]
    exact ⟨hfault, hsteps.trans (steps_tick_of_accessing h.accessing)⟩

theorem Held.stays (h : m.Held) :
    ¬∃ n, (m.runFor n).fault ≠ none ∨ (m.runFor n).state.cpu.steps = m.cpu.steps + 1 := by
  rintro ⟨n, hstopped | hstep⟩
  · exact hstopped (h.runFor n).1
  · rw [(h.runFor n).2] at hstep
    exact Nat.succ_ne_self _ hstep.symm

/-- A GPU that asks for commands is always ready, for in front of DMA there is room. -/
theorem Quiet.listWaits_front (hquiet : m.Quiet) (h : Reachable m)
    (hdirection : m.devices.gpu.status.dmaDirection = 2) :
    Dma.Channel.listWaits m.front.gpu = false := by
  have hfront : m.front.gpu.status.dmaDirection = 2 := by
    rw [hquiet.front]
    exact m.devices.gpu.dmaDirection_step.trans hdirection
  rw [Gpu.listWaits_eq hfront]
  exact isFull_front h.gpu

/-- Only software can make it ask for something else. -/
theorem Quiet.dmaDirection_tick (hquiet : m.Quiet) :
    m.tick.state.devices.gpu.status.dmaDirection = m.devices.gpu.status.dmaDirection := by
  have hgpu : m.tick.state.devices.gpu = (m.front.move .dma).gpu :=
    congrArg (·.gpu) hquiet.traffic_tick
  have hmoves : ∀ move ∈ [Dma.Move.gpu .step, .dma], move.isStep = true := by decide
  have hrun := Dma.System.dmaDirection_run (s := m.traffic) [.gpu .step, .dma] hmoves
  rw [hgpu, hquiet.front]
  exact hrun

/-- So it lets any list that does not end hold the machine. -/
theorem listWaits_runFor (n : Nat) : ∀ {m : Machine}, Reachable m →
    m.devices.dma.accessing = true → Dma.Endless m.traffic →
    m.devices.gpu.status.dmaDirection = 2 →
    Dma.Channel.listWaits (m.runFor n).state.front.gpu = false := by
  induction n with
  | zero => exact fun h haccessing _ => (quiet_of_accessing haccessing).listWaits_front h
  | succ n ih =>
    intro m h haccessing hendless hdirection
    have hquiet := quiet_of_accessing haccessing
    obtain ⟨hnext, hrest⟩ := hquiet.endless_tick hendless (hquiet.listWaits_front h hdirection)
    rw [runFor_of_done hquiet.fault_tick]
    exact ih h.tick hnext hrest (hquiet.dmaDirection_tick.trans hdirection)

theorem held_of_direction (h : Reachable m) (haccessing : m.devices.dma.accessing = true)
    (hendless : Dma.Endless m.traffic) (hdirection : m.devices.gpu.status.dmaDirection = 2) :
    m.Held :=
  ⟨haccessing, hendless, fun n => listWaits_runFor n h haccessing hendless hdirection⟩

/-- Where the GPU is not ready, the bus is free behind the tick. -/
theorem steppedIn_of_listWaits_front (h : m.devices.dma.accessing = true)
    (hendless : Dma.Endless m.traffic) (hwaits : Dma.Channel.listWaits m.front.gpu = true) :
    m.SteppedIn 2 :=
  steppedIn_two h (((quiet_of_accessing h).endless_front hendless).released hwaits)

/-- So it is enough that the GPU is not ready once. -/
theorem steppedIn_of_listWaits (n : Nat) : ∀ {m : Machine},
    m.devices.dma.accessing = true → Dma.Endless m.traffic →
    Dma.Channel.listWaits (m.runFor n).state.front.gpu = true → ∃ k, m.SteppedIn k := by
  induction n with
  | zero =>
    intro m h hendless hwaits
    exact ⟨2, steppedIn_of_listWaits_front h hendless hwaits⟩
  | succ n ih =>
    intro m h hendless hwaits
    cases hready : Dma.Channel.listWaits m.front.gpu with
    | true => exact ⟨2, steppedIn_of_listWaits_front h hendless hready⟩
    | false =>
      obtain ⟨hnext, hendless⟩ := (quiet_of_accessing h).endless_tick hendless hready
      rw [runFor_of_done (quiet_of_accessing h).fault_tick] at hwaits
      obtain ⟨k, hstepped⟩ := ih hnext hendless hwaits
      exact ⟨k + 1, hstepped.behind h⟩

/-- **Single-stepping** comes to an end, with a tick that stops or with one step of the processor,
just when the machine is not held.  Unless DMA has the bus for a list that does not end, there is a
bound: the words of the longest transfer, one tick to find the bus free and one for the step. -/
theorem steppedIn_iff (h : Reachable m) :
    ((∃ n, m.SteppedIn n) ↔ ¬m.Held) ∧
    (¬(m.devices.dma.accessing = true ∧ Dma.Endless m.traffic) →
      ∃ n ≤ Dma.longest + 2, m.SteppedIn n ∧ m.stepInstruction = m.runFor n) := by
  have hends : ¬(m.devices.dma.accessing = true ∧ Dma.Endless m.traffic) →
      ∃ n ≤ Dma.longest + 2, m.SteppedIn n := by
    intro hlist
    apply steppedIn_of_listEnds h
    intro haccessing
    by_contra hends
    exact hlist ⟨haccessing, .of_not_listEnds h.dma hends⟩
  refine ⟨⟨?_, fun hfree => ?_⟩, fun hlist => ?_⟩
  · rintro ⟨n, hstepped⟩ hheld
    exact hheld.stays ⟨n, hstepped.outcome⟩
  · by_cases hlist : m.devices.dma.accessing = true ∧ Dma.Endless m.traffic
    · have hnot : ¬∀ n, Dma.Channel.listWaits (m.runFor n).state.front.gpu = false :=
        fun hready => hfree ⟨hlist.1, hlist.2, hready⟩
      obtain ⟨n, hwaits⟩ := not_forall.1 hnot
      exact steppedIn_of_listWaits n hlist.1 hlist.2 (eq_true_of_ne_false hwaits)
    · obtain ⟨n, -, hstepped⟩ := hends hlist
      exact ⟨n, hstepped⟩
  · obtain ⟨n, hle, hstepped⟩ := hends hlist
    exact ⟨n, hle, hstepped, hstepped.returns endless (hle.trans (by decide))⟩

/-! ### A table that is cleared, and a list that closes on itself -/

/-- A machine at power-on, behind some accesses to its bus.  Its processor cannot fetch, and so
leaves the bus alone. -/
def accessed (requests : List Request) : Machine :=
  { powerOn .ntsc with
    cpu := { Cpu.reset with pc := 1 }
    devices := performAll (powerOn .ntsc).devices requests }

theorem Reachable.performAll (requests : List Request) : ∀ {m : Machine}, Reachable m →
    Reachable { m with devices := PlayStation.performAll m.devices requests } := by
  induction requests with
  | nil => exact fun h => h
  | cons r requests ih => exact fun h => ih (h.access r)

theorem reachable_accessed (requests : List Request) : Reachable (accessed requests) :=
  ((Reachable.powerOn .ntsc).performAll requests).setCpu _

/-- Channel 6 is asked for a table of three entries, and a tick is made. -/
def clearing : Machine :=
  (accessed [.store .word 0x1F8010F0 0x08000000, .store .word 0x1F8010E0 0x100,
    .store .word 0x1F8010E4 3, .store .word 0x1F8010E8 0x11000002]).tick.state

theorem steppedIn_clearing :
    Reachable clearing ∧ clearing.devices.dma.accessing = true ∧
    ∃ n ≤ Dma.longest + 2, clearing.SteppedIn n ∧ clearing.stepInstruction = clearing.runFor n := by
  have hreachable : Reachable clearing := (reachable_accessed _).tick
  have hselect : clearing.devices.dma.select = some Dma.tableChannel := by decide +kernel
  refine ⟨hreachable, by decide +kernel, (steppedIn_iff hreachable).2 ?_⟩
  rintro ⟨-, hendless⟩
  have hlist : clearing.devices.dma.select = some Dma.gpuChannel := hendless.select
  rw [hselect] at hlist
  exact absurd hlist (by decide)

/-- The GPU asks for commands, and channel 2 is asked for the list at address 0x100. -/
def listRequests : List Request :=
  [.store .word 0x1F801814 0x04000002, .store .word 0x1F8010F0 0x800,
    .store .word 0x1F8010A0 0x100, .store .word 0x1F8010A8 0x01000401]

/-- The packet there has no payload, and is its own successor. -/
def loopRequest : Request := .store .word 0x100 0x100

/-- Channel 2 is about to begin. -/
def asking : Machine := accessed (listRequests ++ [loopRequest])

/-- It has read the header. -/
def looping : Machine := asking.tick.state

theorem ramWord_loopRequest (d : Devices) :
    (loopRequest.perform d).memory.ramWord 0x100 = 0x100 := by
  show (Bus.store .word 0x100 0x100 d).state.memory.ramWord 0x100 = 0x100
  rw [d.store_of_memory (by decide), d.memory.write_word_ram (by decide) (by decide)]
  exact d.memory.ramWord_setRamWord_self 0x100 0x100

/-- A processor that asks nothing of the bus leaves the devices alone. -/
theorem quiet_of_requests (h : m.devices.dma.accessing = false) (hdone : m.turn.fault = none)
    (hrequests : m.cpu.requests m.clocked = []) : m.Quiet where
  done := hdone
  devices := by
    rw [m.turn_of_free h]
    show (m.cpu.step m.clocked).state.2 = _
    rw [Cpu.bus_step, hrequests]
    rfl

theorem reachable_asking : Reachable asking := reachable_accessed _

theorem endless_looping :
    looping.devices.dma.accessing = true ∧ Dma.Endless looping.traffic ∧
    looping.devices.gpu.status.dmaDirection = 2 := by
  have hword : asking.devices.memory.ramWord 0x100 = 0x100 :=
    ramWord_loopRequest (PlayStation.performAll (powerOn .ntsc).devices listRequests)
  have hchain : ¬∃ packets, Dma.PacketList asking.devices.memory 0x100 packets := by
    apply Dma.not_packetList_of_loop <;> rw [Dma.packetNext, hword] <;> decide
  have hselect : asking.devices.dma.select = some Dma.gpuChannel := by decide +kernel
  have hbegun : (Dma.started? (asking.devices.dma.channel Dma.gpuChannel) Dma.gpuChannel).map
      (·.transfer) = some (some (.list 0x100 .header)) := by decide +kernel
  obtain ⟨c, hstarted, htransfer⟩ := Option.map_eq_some_iff.1 hbegun
  have hendless : Dma.Endless asking.traffic :=
    ⟨hselect, c, 0x100, .header, hstarted, htransfer, hchain⟩
  have hdirection : asking.devices.gpu.status.dmaDirection = 2 := by decide +kernel
  have hquiet : asking.Quiet :=
    quiet_of_requests (by decide +kernel) (by decide +kernel) (by decide +kernel)
  have hready := hquiet.listWaits_front reachable_asking hdirection
  obtain ⟨haccessing, hrest⟩ := hquiet.endless_tick hendless hready
  unfold looping
  exact ⟨haccessing, hrest, hquiet.dmaDirection_tick.trans hdirection⟩

/-- **A list that closes on itself** keeps single-stepping from coming to an end. -/
theorem stepping_forever :
    Reachable looping ∧
    ¬∃ n, (looping.runFor n).fault ≠ none ∨
      (looping.runFor n).state.cpu.steps = looping.cpu.steps + 1 := by
  have hreachable : Reachable looping := reachable_asking.tick
  obtain ⟨haccessing, hendless, hdirection⟩ := endless_looping
  have hheld : looping.Held := held_of_direction hreachable haccessing hendless hdirection
  exact ⟨hreachable, hheld.stays⟩

end Machine

end PlayStation

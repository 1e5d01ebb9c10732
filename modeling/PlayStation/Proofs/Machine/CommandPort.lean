/-
  Words for the GPU, and whether there is ROOM for them.

  Both the processor and DMA queue words with the GPU, and neither has to look whether the FIFO is
  full; a word that is queued then falls onto the oldest one.  The order of a tick keeps DMA from
  that: its step comes behind the one of the GPU, and behind that there is room (`isFull_front`).
  So every word that DMA moves is appended (`toList_move_dma`), however it is paced.

  The processor comes first in a tick, and finds the FIFO as DMA left it in the tick before.  If it
  is full then, this is because DMA filled it (`Run.filled`).
-/
import PlayStation.Proofs.Dma.Reachable
import PlayStation.Proofs.Gpu.Room
import PlayStation.Proofs.Machine.Devices
import PlayStation.Proofs.Machine.Tick

namespace PlayStation

/-! ## Accesses and operations -/

/-- The GPU behind some accesses. -/
theorem Devices.gpu_performAll (requests : List Request) : ∀ d : Devices,
    (PlayStation.performAll d requests).gpu =
      d.gpu.performAll (requests.filterMap Request.operation?) := by
  induction requests with
  | nil => exact fun d => rfl
  | cons r requests ih =>
    intro d
    have hfirst : (r.perform d).gpu = d.gpu.performAll r.operation?.toList := d.gpu_perform r
    have hrest : (PlayStation.performAll d (r :: requests)).gpu = _ := ih (r.perform d)
    rw [hrest, hfirst, List.filterMap_cons]
    cases r.operation? <;> rfl

/-- A load queues nothing. -/
theorem Request.queues_of_load {width : AccessWidth} {address : UInt32} {o : Gpu.Operation}
    (h : (Request.load width address).operation? = some o) : o.queues = false := by
  rw [operation?] at h
  split at h
  · obtain ⟨register, -, hread⟩ := Option.bind_eq_some_iff.1 h
    cases register with
    | gpuData =>
      cases hread
      rfl
    | _ => cases hread
  · cases h

/-- When the processor queues a word, it has made no access before but its fetch. -/
theorem Cpu.queues_before {cpu : Cpu} {d : Devices} {before after : List Request} {r : Request}
    {word : UInt32} (hsplit : cpu.requests d = before ++ r :: after)
    (hr : r.operation? = some (.queue word)) :
    ∀ o ∈ before.filterMap Request.operation?, o.queues = false := by
  rcases cpu.requests_cases d with hnone | ⟨access, haccess⟩
  · rw [hnone] at hsplit
    exact absurd hsplit.symm (List.append_ne_nil_of_right_ne_nil before (List.cons_ne_nil r after))
  · rw [haccess] at hsplit
    cases before with
    | nil =>
      -- the fetch itself queues nothing
      obtain ⟨rfl, -⟩ := List.cons.inj hsplit
      have hqueues := Request.queues_of_load hr
      cases hqueues
    | cons first before =>
      obtain ⟨rfl, hrest⟩ := List.cons.inj hsplit
      have hlength : access.toList.length = before.length + (after.length + 1) := by
        rw [hrest]
        exact List.length_append
      have hone : access.toList.length ≤ 1 := by cases access <;> simp
      obtain rfl : before = [] := List.length_eq_zero_iff.1 (by omega)
      intro o ho
      obtain ⟨r', hr', hop⟩ := List.mem_filterMap.1 ho
      obtain rfl := List.mem_singleton.1 hr'
      exact Request.queues_of_load hop

namespace Dma.System

variable {s : System}

/-- What a step of DMA does with the GPU is one of its operations. -/
theorem reachable_move_dma (h : Gpu.Reachable s.gpu) : Gpu.Reachable (s.move .dma).gpu := by
  rw [gpu_move_dma]
  cases s.cycle? with
  | none => exact h
  | some e =>
    show Gpu.Reachable (e.deliver s.gpu)
    unfold BusCycle.deliver
    cases e.access with
    | header address => exact h
    | payload address => exact h.perform (.queue e.word)
    | push address => exact h.perform (.queue e.word)
    | pull address => exact h.perform .read
    | entry address value => exact h

/-- **With room in the FIFO**, a step of DMA appends the word that it queues. -/
theorem toList_move_dma (hsound : s.gpu.Sound) (hroom : s.gpu.fifo.isFull = false) :
    (s.move .dma).gpu.fifo.toList = s.gpu.fifo.toList ++ pushed s.cycle?.toList := by
  rw [gpu_move_dma]
  cases s.cycle? with
  | none => exact (List.append_nil _).symm
  | some e =>
    have hread : s.gpu.readWord.2.fifo.toList = s.gpu.fifo.toList ++ [] := by
      rw [s.gpu.readWord_frame.1, List.append_nil]
    have hpush : (s.gpu.queue e.word).fifo.toList = s.gpu.fifo.toList ++ [e.word] :=
      Gpu.CommandFifo.toList_push hsound.fifo hroom e.word
    show (e.deliver s.gpu).fifo.toList = _ ++ [e].filterMap BusCycle.pushed?
    unfold BusCycle.deliver
    rw [List.filterMap_cons, List.filterMap_nil, BusCycle.pushed?]
    cases e.access with
    | header address => exact (List.append_nil _).symm
    | payload address => exact hpush
    | push address => exact hpush
    | pull address => exact hread
    | entry address value => exact (List.append_nil _).symm

end Dma.System

namespace Machine

/-! ## Runs -/

/-- What the processor does with the GPU in its turn. -/
def gpuOperations (m : Machine) : List Gpu.Operation :=
  if m.devices.dma.accessing then []
  else (m.cpu.requests m.clocked).filterMap Request.operation?

theorem gpu_turn (m : Machine) :
    m.turn.state.devices.gpu = m.devices.gpu.performAll m.gpuOperations := by
  unfold gpuOperations
  cases haccessing : m.devices.dma.accessing with
  | true =>
    rw [m.turn_of_accessing haccessing]
    rfl
  | false =>
    rw [m.turn_of_free haccessing]
    show (m.cpu.step m.clocked).state.2.gpu = _
    rw [Cpu.bus_step]
    exact Devices.gpu_performAll _ m.clocked

/-- A run from power-on, with the machines in front of its ticks so far, the last one first.
Between ticks, anything may be done with the machine from outside but to queue words with the
GPU. -/
inductive Run : List Machine → Machine → Prop
  | powerOn (standard : Gpu.VideoStandard) : Run [] (powerOn standard)
  | outside {past : List Machine} {m : Machine} (h : Run past m) (n : Machine)
      (operations : List Gpu.Operation) (hquiet : ∀ o ∈ operations, o.queues = false)
      (hgpu : n.devices.gpu = m.devices.gpu.performAll operations) : Run past n
  | tick {past : List Machine} {m : Machine} (h : Run past m) (hdone : m.tick.fault = none) :
      Run (m :: past) m.tick.state

variable {past : List Machine} {m : Machine}

/-- The GPU behind a tick. -/
theorem gpu_tick (hdone : m.tick.fault = none) :
    m.tick.state.devices.gpu = (m.front.move .dma).gpu := by
  rw [fault_tick] at hdone
  exact congrArg Dma.System.gpu (m.front_tick hdone)

theorem reachable_turn (h : Gpu.Reachable m.devices.gpu) :
    Gpu.Reachable m.turn.state.devices.gpu := by
  rw [gpu_turn]
  exact h.performAll

theorem reachable_front (h : Gpu.Reachable m.devices.gpu) : Gpu.Reachable m.front.gpu :=
  (reachable_turn h).perform .step

/-- **A run** does with the GPU what can be done with one. -/
theorem Run.reachable (h : Run past m) : Gpu.Reachable m.devices.gpu := by
  induction h with
  | powerOn standard => exact Gpu.Reachable.powerOn.perform (.selectStandard standard)
  | outside _ n operations _ hgpu ih =>
    rw [hgpu]
    exact ih.performAll
  | tick _ hdone ih =>
    rw [gpu_tick hdone]
    exact Dma.System.reachable_move_dma (reachable_front ih)

/-! ## Full FIFOs -/

/-- In front of DMA there is room. -/
theorem isFull_front (h : Gpu.Reachable m.devices.gpu) : m.front.gpu.fifo.isFull = false :=
  Gpu.isFull_step (reachable_turn h).sound

/-- The tick fills the FIFO in its step of DMA. -/
structure Fills (m : Machine) : Prop where
  done : m.tick.fault = none
  room : m.front.gpu.fifo.isFull = false
  full : m.tick.state.devices.gpu.fifo.isFull = true

/-- Where a FIFO is full, it was so before operations that queue nothing. -/
theorem isFull_of_performAll {g : Gpu} (hg : g.Sound) {operations : List Gpu.Operation}
    (hquiet : ∀ o ∈ operations, o.queues = false)
    (hfull : (g.performAll operations).fifo.isFull = true) : g.fifo.isFull = true := by
  have hle := Gpu.size_performAll_le (g := g) hquiet
  have hcapacity : (g.performAll operations).fifo.size = Gpu.fifoCapacity := eq_of_beq hfull
  have hsize := hg.fifo.size
  apply beq_iff_eq.2
  omega

/-- **A FIFO that is full** between ticks was filled by DMA in the last one. -/
theorem Run.filled (h : Run past m) (hfull : m.devices.gpu.fifo.isFull = true) :
    ∃ p rest, past = p :: rest ∧ p.Fills := by
  induction h with
  | powerOn standard => cases hfull
  | outside hrun n operations hquiet hgpu ih =>
    rw [hgpu] at hfull
    exact ih (isFull_of_performAll hrun.reachable.sound hquiet hfull)
  | @tick past m hrun hdone _ =>
    exact ⟨m, past, rfl, hdone, isFull_front hrun.reachable, hfull⟩

/-- In its turn the processor stores a word to the GPU's data port while the FIFO is full. -/
def Overruns (m : Machine) : Prop :=
  m.devices.dma.accessing = false ∧
  ∃ before store after word, m.cpu.requests m.clocked = before ++ store :: after ∧
    store.operation? = some (.queue word) ∧
    (performAll m.clocked before).gpu.fifo.isFull = true

/-- **Words for the GPU.**  A GPU with a full FIFO takes a word at least with every step.  So in a
run, DMA finds room in the FIFO and appends the words that it queues; and the processor finds none
only in the tick behind one in which DMA filled it. -/
theorem Run.room (h : Run past m) :
    (∀ g, Gpu.Reachable g → g.fifo.isFull = true → g.step.2.fifo.size < g.fifo.size) ∧
    m.front.gpu.fifo.isFull = false ∧
    (m.tick.fault = none → m.tick.state.devices.gpu.fifo.toList =
      m.front.gpu.fifo.toList ++ Dma.pushed m.front.cycle?.toList) ∧
    (m.Overruns → ∃ p rest, past = p :: rest ∧ p.Fills) := by
  have hroom := isFull_front h.reachable
  refine ⟨fun g _ hfull => Gpu.size_step_lt hfull, hroom, fun hdone => ?_, ?_⟩
  · rw [gpu_tick hdone]
    exact Dma.System.toList_move_dma (reachable_front h.reachable).sound hroom
  · rintro ⟨-, before, store, after, word, hsplit, hstore, hfull⟩
    rw [Devices.gpu_performAll] at hfull
    exact h.filled (isFull_of_performAll h.reachable.sound (Cpu.queues_before hsplit hstore) hfull)

/-! ### A run in which a word is lost -/

/-- Sets a machine to queue two words in its next tick: the processor fetches a store from a register
of DMA, and DMA is asked for one word. -/
def feed (m : Machine) : Machine :=
  { m with
    cpu :=
      { m.cpu with
        pc := 0xBF801084
        regs := (m.cpu.regs.put (Instruction.rs ⟨0xAC221810⟩) 0xBF800000).put
          (Instruction.rt ⟨0xAC221810⟩) 0x3C000000 }
    devices :=
      { m.devices with
        dma := ((m.devices.dma.write 0x04 0xAC221810).write 0x70 0x800).request
          Dma.gpuChannel 0 1 0x01000001 } }

/-- A machine behind some ticks, set for the next one. -/
def fed : Nat → Machine
  | 0 => (powerOn .ntsc).feed
  | n + 1 => (fed n).tick.state.feed

/-- The machines in front of these ticks. -/
def feeds : Nat → List Machine
  | 0 => []
  | n + 1 => fed n :: feeds n

theorem Run.feed (h : Run past m) : Run past m.feed :=
  h.outside m.feed [] (fun _ hmem => absurd hmem List.not_mem_nil) rfl

theorem run_fed : ∀ {n : Nat}, (∀ k < n, (fed k).tick.fault = none) → Run (feeds n) (fed n) := by
  intro n
  induction n with
  | zero => exact fun _ => (Run.powerOn .ntsc).feed
  | succ n ih =>
    intro h
    have hrun : Run (feeds n) (fed n) := ih fun k hk => h k (Nat.lt_succ_of_lt hk)
    exact (hrun.tick (h n (Nat.lt_succ_self n))).feed

/-- The first word wants eleven more.  DMA moves the last of them, and the processor stores the next
one before the GPU has its turn. -/
theorem room_fed : (fed 6).Overruns ∧ ∃ p rest, feeds 6 = p :: rest ∧ p.Fills := by
  have hdone : ∀ k < 6, (fed k).tick.fault = none := by decide +kernel
  have hoverruns : (fed 6).Overruns :=
    ⟨by decide +kernel, [.load .word 0xBF801084], .store .word 0xBF801810 0x3C000000, [],
      0x3C000000, by decide +kernel, rfl, by decide +kernel⟩
  exact ⟨hoverruns, (run_fed hdone).room.2.2.2 hoverruns⟩

end Machine

end PlayStation

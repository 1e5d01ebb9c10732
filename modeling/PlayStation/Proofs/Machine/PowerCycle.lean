/-
  RESET is a power cycle.

  Whoever owns a machine can let it tick, access its bus, change the processor, do things with the
  GPU, load a BIOS, and reset it: these are its operations.  An operation may answer something, and
  behind every one the owner can look at all there is to see (`Machine.report`).  What is seen along
  a list of operations is a `Machine.watch`.

  1. **Alike machines** are seen to do the same, for ever (`Alike.watch`).

  2. **Behind a reset** a machine is like one that has just been built, with the BIOS and under the
     video standard that it had, provided nobody watches what it draws (`reset_alike`).  Only the
     ring of the FIFO may be different: it still holds the words of old.

  3. **A history** of use changes neither BIOS nor standard and attaches no renderer
     (`configured_performAll`).  So a machine that was built, used and reset cannot be told from one
     that was built anew (`watch_reset`).
-/
import PlayStation.Machine.Build
import PlayStation.Machine.Snapshot
import PlayStation.Proofs.Machine.Alike
import PlayStation.Proofs.Machine.Configured

namespace PlayStation

/-- An image changes the BIOS, and nothing else of memory. -/
theorem Memory.eq_of_loadBiosFile {m memory : Memory} {path : String} {image : Option ByteArray}
    (h : m.loadBiosFile path image = .ok memory) : memory = { m with bios := memory.bios } := by
  cases image with
  | none => cases h
  | some image =>
    unfold loadBiosFile loadBios at h
    simp only at h
    split at h
    · cases h
      rfl
    · cases h

namespace Machine

/-! ## Operations and what is seen of them -/

/-- What can be done with a machine. -/
inductive Operation where
  | tick
  /-- Ticks until a fault, at most so many. -/
  | run (limit : Nat)
  /-- Ticks until the processor has taken a step, at most so many. -/
  | stepInstruction (limit : Nat)
  /-- The bus is accessed as the processor accesses it. -/
  | access (r : Request)
  /-- Registers or program counter of the processor are changed. -/
  | changeCpu (change : Cpu → Cpu)
  /-- Something is done with the GPU past the bus. -/
  | useGpu (o : Gpu.Operation)
  | loadBios (path : String) (image : Option ByteArray)
  | reset

/-- What an operation answers. -/
inductive Answer where
  | nothing
  | word (word : UInt32)
  | events (events : Gpu.Events)
  | failed (fault : Fault)
deriving DecidableEq, Repr

/-- Nothing, or a fault. -/
def Answer.ofFault? : Option Fault → Answer
  | none => .nothing
  | some fault => .failed fault

/-- All there is to see of a machine. -/
structure Report where
  cpu : Cpu
  memory : Memory
  /-- The status word of the GPU. -/
  gpuStatus : UInt32
  /-- The word that a read of the GPU would return. -/
  gpuRead : UInt32
  /-- The words in the FIFO, oldest first. -/
  waiting : List UInt32
  /-- The GPU without its FIFO: registers, video memory, beam, and the calls the renderer kept. -/
  gpu : Gpu
  dma : Dma
  timers : Timers
  interrupts : InterruptController
  ticks : Nat
  snapshot : Text.Json

variable (m : Machine)

/-- Does it; what fails leaves the machine where it got to. -/
def perform : Operation → Machine
  | .tick => m.tick.state
  | .run limit => (m.runFor limit).state
  | .stepInstruction limit => (m.stepInstructionWithin limit).state
  | .access r => { m with devices := r.perform m.devices }
  | .changeCpu change => { m with cpu := change m.cpu }
  | .useGpu o => { m with devices := { m.devices with gpu := m.devices.gpu.perform o } }
  | .loadBios path image =>
    match m.loadBiosFile path image with
    | .ok loaded => loaded
    | .error _ => m
  | .reset => m.reset

/-- What it answers. -/
def answer : Operation → Answer
  | .tick => .ofFault? m.tick.fault
  | .run limit => .ofFault? (m.runFor limit).fault
  | .stepInstruction limit => .ofFault? (m.stepInstructionWithin limit).fault
  | .access r =>
    match r.reply m.devices with
    | .ok none => .nothing
    | .ok (some word) => .word word
    | .error fault => .failed fault
  | .useGpu .read => .word m.devices.gpu.readWord.1
  | .useGpu .step => .events m.devices.gpu.step.1
  | .loadBios path image =>
    match m.loadBiosFile path image with
    | .ok _ => .nothing
    | .error fault => .failed fault
  | .useGpu _ | .changeCpu _ | .reset => .nothing

/-- What there is to see of it now. -/
def report : Report where
  cpu := m.cpu
  memory := m.devices.memory
  gpuStatus := m.devices.gpu.statusWord
  gpuRead := m.devices.gpu.readWord.1
  waiting := m.devices.gpu.fifo.toList
  gpu := m.devices.gpu.withFifo .empty
  dma := m.devices.dma
  timers := m.devices.timers
  interrupts := m.devices.interrupts
  ticks := m.ticks
  snapshot := m.snapshot

/-- Does one after the other. -/
def performAll (operations : List Operation) : Machine := operations.foldl perform m

/-- What is seen along operations: every answer, and the machine behind it. -/
def watch (m : Machine) : List Operation → List (Answer × Report)
  | [] => []
  | o :: operations => (m.answer o, (m.perform o).report) :: (m.perform o).watch operations

variable {m}

/-! ## Alike machines -/

namespace Alike

variable {n : Machine}

theorem loadBiosFile (h : m.Alike n) (path : String) (image : Option ByteArray) :
    (∃ fault, m.loadBiosFile path image = .error fault ∧ n.loadBiosFile path image = .error fault) ∨
    ∃ m' n', m.loadBiosFile path image = .ok m' ∧ n.loadBiosFile path image = .ok n' ∧
      m'.Alike n' := by
  unfold Machine.loadBiosFile
  rw [h.devices.memory]
  cases n.devices.memory.loadBiosFile path image with
  | error fault => exact .inl ⟨fault, rfl, rfl⟩
  | ok memory =>
    exact .inr ⟨_, _, rfl, rfl, h.cpu, { h.devices with memory := rfl }, h.ticks, h.scanlineEnded⟩

theorem perform (h : m.Alike n) (o : Operation) : (m.perform o).Alike (n.perform o) := by
  cases o with
  | tick => exact h.tick.2
  | run limit => exact (h.runFor limit).2
  | stepInstruction limit => exact (h.stepInstructionWithin limit).2
  | access r => exact { h with devices := (Devices.request_alike h.devices r).2 }
  | changeCpu change => exact { h with cpu := congrArg change h.cpu }
  | useGpu o => exact { h with devices := { h.devices with gpu := h.devices.gpu.perform o } }
  | loadBios path image =>
    unfold Machine.perform
    rcases h.loadBiosFile path image with ⟨fault, hm, hn⟩ | ⟨m', n', hm, hn, halike⟩
    · simp only [hm, hn]
      exact h
    · simp only [hm, hn]
      exact halike
  | reset =>
    have hmemory : m.devices.memory.reset = n.devices.memory.reset := by rw [h.devices.memory]
    exact ⟨rfl, ⟨hmemory, h.devices.gpu.perform .reset, rfl, rfl, rfl⟩, rfl, rfl⟩

theorem answer (h : m.Alike n) (o : Operation) : m.answer o = n.answer o := by
  cases o with
  | tick => exact congrArg Answer.ofFault? h.tick.1
  | run limit => exact congrArg Answer.ofFault? (h.runFor limit).1
  | stepInstruction limit => exact congrArg Answer.ofFault? (h.stepInstructionWithin limit).1
  | access r =>
    simp only [Machine.answer, (Devices.request_alike h.devices r).1]
  | changeCpu change => rfl
  | useGpu o =>
    cases o with
    | read => exact congrArg Answer.word h.devices.gpu.readWord.1
    | step => exact congrArg Answer.events h.devices.gpu.step.1
    | _ => rfl
  | loadBios path image =>
    rcases h.loadBiosFile path image with ⟨fault, hm, hn⟩ | ⟨m', n', hm, hn, -⟩
    · simp only [Machine.answer, hm, hn]
    · simp only [Machine.answer, hm, hn]
  | reset => rfl

theorem snapshot (h : m.Alike n) : m.snapshot = n.snapshot := by
  have hsize : m.devices.gpu.fifo.size = n.devices.gpu.fifo.size := by
    rw [← Gpu.CommandFifo.length_toList, ← Gpu.CommandFifo.length_toList, h.devices.gpu.waiting]
  have hstart : m.devices.gpu.displayStart = n.devices.gpu.displayStart :=
    h.devices.gpu.same fun _ _ => rfl
  have hbeam : m.devices.gpu.beam = n.devices.gpu.beam := h.devices.gpu.same fun _ _ => rfl
  unfold Machine.snapshot Gpu.toJson
  rw [h.cpu, h.ticks, h.devices.dma, h.devices.interrupts, h.devices.gpu.statusWord, hsize, hstart,
    hbeam]

theorem report (h : m.Alike n) : m.report = n.report := by
  have hgpu : m.devices.gpu.withFifo .empty = n.devices.gpu.withFifo .empty :=
    h.devices.gpu.same (f := (·.withFifo .empty)) fun _ _ => rfl
  unfold Machine.report
  rw [h.cpu, h.devices.memory, h.devices.gpu.statusWord, h.devices.gpu.readWord.1,
    h.devices.gpu.waiting, hgpu, h.devices.dma, h.devices.timers, h.devices.interrupts, h.ticks,
    h.snapshot]

/-- **Alike machines** are seen to do the same, for ever. -/
theorem watch (later : List Operation) : ∀ {m n : Machine}, m.Alike n →
    m.watch later = n.watch later := by
  induction later with
  | nil => exact fun _ => rfl
  | cons o later ih =>
    intro m n h
    rw [Machine.watch, Machine.watch, h.answer o, (h.perform o).report, ih (h.perform o)]

end Alike

/-! ## New machines -/

/-- A machine that nothing has been done with. -/
def new (bios : Vector UInt8 biosSize) (standard : Gpu.VideoStandard) : Machine :=
  { devices :=
      { memory := { Memory.blank with bios }
        gpu := ({} : Gpu).setVideoStandard standard } }

/-- The machine comes from settings and the files they name. -/
def Built (m : Machine) : Prop :=
  ∃ (files : String → Option ByteArray) (settings : Settings),
    fromSettings (m := Id) files settings = .ok m

theorem Built.eq_new (h : Built m) :
    m = new m.devices.memory.bios m.devices.gpu.beam.standard := by
  obtain ⟨files, settings, hbuilt⟩ := h
  unfold fromSettings at hbuilt
  cases hpath : settings.bios with
  | none =>
    rw [hpath] at hbuilt
    cases hbuilt
    rfl
  | some path =>
    rw [hpath] at hbuilt
    have hload : (powerOn settings.videoMode).loadBiosFile path (files path) = .ok m := hbuilt
    unfold loadBiosFile at hload
    cases hmemory : (powerOn settings.videoMode).devices.memory.loadBiosFile path (files path) with
    | error fault =>
      rw [hmemory] at hload
      cases hload
    | ok memory =>
      rw [hmemory] at hload
      cases hload
      exact congrArg (fun memory => { (powerOn settings.videoMode) with
        devices := { (powerOn settings.videoMode).devices with memory } })
        (Memory.eq_of_loadBiosFile hmemory)

variable {bios : Vector UInt8 biosSize} {standard : Gpu.VideoStandard}

/-- **Behind a reset**, a machine is like a new one. -/
theorem reset_alike (h : m.devices.Configured bios standard) :
    m.reset.Alike (new bios standard) := by
  have hgpu : m.devices.gpu.reset =
      (({} : Gpu).setVideoStandard standard).withFifo m.devices.gpu.fifo.clear := by
    unfold Gpu.reset Gpu.resetRegisters
    rw [h.gpu.renderer, h.gpu.standard]
    rfl
  have hmemory : m.devices.memory.reset = { Memory.blank with bios } := by
    rw [Memory.reset, h.bios]
  refine ⟨rfl, ⟨hmemory, ?_, rfl, rfl, rfl⟩, rfl, rfl⟩
  show m.devices.gpu.reset.Alike ((({} : Gpu).setVideoStandard standard).withFifo .empty)
  rw [hgpu]
  exact .rings _ ⟨Gpu.CommandFifo.valid_clear _, Gpu.CommandFifo.valid_empty, rfl⟩

/-! ## Histories -/

/-- The operation uses the machine, and does not configure it. -/
def Operation.isUse : Operation → Bool
  | .loadBios _ _ => false
  | .useGpu o => o.isUse
  | .tick | .run _ | .stepInstruction _ | .access _ | .changeCpu _ | .reset => true

theorem configured_perform (h : m.devices.Configured bios standard) {o : Operation}
    (ho : o.isUse = true) : (m.perform o).devices.Configured bios standard := by
  cases o with
  | tick => exact configured_tick h
  | run limit => exact configured_runFor limit h
  | stepInstruction limit => exact configured_stepInstructionWithin limit h
  | access r => exact h.request r
  | changeCpu change => exact h
  | useGpu o => exact ⟨h.bios, h.gpu.perform ho⟩
  | loadBios path image => cases ho
  | reset => exact ⟨h.bios, h.gpu.renderer, h.gpu.standard⟩

theorem configured_performAll {history : List Operation}
    (hhistory : ∀ o ∈ history, o.isUse = true) : ∀ {m : Machine},
    m.devices.Configured bios standard → (m.performAll history).devices.Configured bios standard := by
  induction history with
  | nil => exact fun h => h
  | cons o history ih =>
    obtain ⟨hfirst, hrest⟩ := List.forall_mem_cons.1 hhistory
    exact fun h => ih hrest (configured_perform h hfirst)

/-- **Reset is a power cycle.**  A machine that was built, used and reset looks like one that was
built anew with the same BIOS and under the same video standard, and whatever is done with the two
from then on, all answers are the same and all that can be seen behind them. -/
theorem watch_reset {used fresh : Machine} (hused : used.Built) (hfresh : fresh.Built)
    (hbios : fresh.devices.memory.bios = used.devices.memory.bios)
    (hstandard : fresh.devices.gpu.beam.standard = used.devices.gpu.beam.standard)
    (history : List Operation) (hhistory : ∀ o ∈ history, o.isUse = true)
    (later : List Operation) :
    (used.performAll history).reset.report = fresh.report ∧
    (used.performAll history).reset.watch later = fresh.watch later := by
  have hconfigured : used.devices.Configured used.devices.memory.bios
      used.devices.gpu.beam.standard := by
    rw [hused.eq_new]
    exact ⟨rfl, rfl, rfl⟩
  have halike := reset_alike (configured_performAll hhistory hconfigured)
  rw [← hbios, ← hstandard, ← hfresh.eq_new] at halike
  exact ⟨halike.report, Alike.watch later halike⟩

/-- A command was queued, the program counter moved and a tick made; behind the reset somebody
attaches a renderer and lets the machine go on. -/
theorem watch_reset_of_queued :
    ((powerOn .pal).performAll
        [.access (.store .word 0x1F801810 0x28FFFFFF), .changeCpu (·.setPc 0x80001000),
          .tick]).reset.report = (powerOn .pal).report ∧
    ((powerOn .pal).performAll
        [.access (.store .word 0x1F801810 0x28FFFFFF), .changeCpu (·.setPc 0x80001000),
          .tick]).reset.watch [.useGpu (.attach .recorder), .tick, .access (.load .word 0x1F801814)] =
      (powerOn .pal).watch [.useGpu (.attach .recorder), .tick, .access (.load .word 0x1F801814)] :=
  watch_reset ⟨fun _ => none, { videoMode := .pal }, rfl⟩
    ⟨fun _ => none, { videoMode := .pal, maxTicks := some 7 }, rfl⟩ rfl rfl _ (by decide) _

end Machine

end PlayStation

/-
  The LOAD DELAY is a single load on its way.

  The processor has a delay slot for each of its 32 registers.  `SingleLoad` is the machine that
  this is meant to be: it has its registers and at most one pair of a register and a value on its
  way.  Its step

    executes an instruction, or enters an exception, on the registers as they are;
    then lets the value on its way arrive in its register, unless the instruction has just written
    that register itself or has loaded it anew;
    and then takes over the load of this instruction, if it is one.

  1. **The relation** (`SingleLoad.Tracks`): the same registers, the same all else, on its way in
     each slot exactly what the pair says, and an empty slot 0.

  2. **One step** (`tracks_after`): whatever action a step comes to, it takes related states to
     related states.  The registers are compared one by one: `Cpu.regs_after` says what the
     processor leaves in a register, and the same case split (written, loaded, arriving or left
     alone) is made on the other side.

  3. **A run** from power-on, where nothing is on its way, stays within the relation.
-/
import PlayStation.Proofs.Cpu.Registers
import PlayStation.Proofs.Cpu.Run

namespace PlayStation

namespace Cpu

/-- The processor with other load slots. -/
def withLoads (cpu : Cpu) (loads : Table DelaySlot 32) : Cpu := { cpu with loads }

/-- Everything but the registers: they are zero, and their slots empty. -/
def withoutRegisters (cpu : Cpu) : Cpu :=
  { cpu with regs := Vector.replicate 32 0, loads := Vector.replicate 32 {} }

end Cpu

/-- Registers under an assignment. -/
def assign (regs : Table UInt32 32) : Option (Reg × UInt32) → Table UInt32 32
  | none => regs
  | some (r, value) => regs.put r value

theorem entry_assign (regs : Table UInt32 32) (p : Option (Reg × UInt32)) (q : Reg) :
    (assign regs p).entry q = (valueFor q p).getD (regs.entry q) := by
  rcases p with _ | ⟨r, value⟩
  · rfl
  by_cases hq : r = q
  · rw [assign, valueFor, if_pos hq, ← hq, Table.entry_put_self]
    rfl
  · rw [assign, valueFor, if_neg hq, Table.entry_put_of_ne _ _ hq]
    rfl

/-- A processor with one load on its way. -/
structure SingleLoad where
  regs : Table UInt32 32
  /-- The load on its way: where to, and what. -/
  pending : Option (Reg × UInt32)
  /-- All else; registers and load slots in it are not used. -/
  rest : Cpu

namespace SingleLoad

/-- Power-on. -/
def reset : SingleLoad := ⟨Cpu.reset.regs, none, Cpu.reset.withoutRegisters⟩

/-- The processor that executes the next instruction. -/
def processor (m : SingleLoad) : Cpu := { m.rest with regs := m.regs }

/-- The load that arrives behind an action: the one on its way, unless the action has written its
register or has loaded it anew. -/
def arriving (m : SingleLoad) (a : Action) : Option (Reg × UInt32) :=
  match m.pending with
  | none => none
  | some (r, value) =>
    if (valueFor r a.write?).isSome || (valueFor r a.load?).isSome then none else some (r, value)

/-- The machine behind an action. -/
def advance (m : SingleLoad) (i : Instruction) (a : Action) : SingleLoad where
  regs := assign (assign m.regs a.write?) (m.arriving a)
  pending := a.load?
  rest := (m.processor.after i a).withoutRegisters

/-- One step. -/
def step {β : Type} [Bus β] (m : SingleLoad) (bus : β) : Outcome (SingleLoad × β) :=
  match m.processor.course bus with
  | (.ok (i, a), bus) => .done (m.advance i a, bus)
  | (.error fault, bus) => .stopped fault (m, bus)

/-- The machine with a single load on its way, to be run. -/
def stepper (β : Type) [Bus β] : Stepper SingleLoad β where
  step := step
  driveLine m level := { m with rest := m.rest.driveLine level }

/-- The machine keeps track of a processor. -/
structure Tracks (cpu : Cpu) (m : SingleLoad) : Prop where
  regs : m.regs = cpu.regs
  rest : m.rest = cpu.withoutRegisters
  /-- Each slot has on its way what the pair says. -/
  slots : ∀ q, (cpu.loads.entry q).pending? = valueFor q m.pending
  /-- Register 0 has no load on its way. -/
  zero : (cpu.loads.entry 0).stage = .idle

end SingleLoad

namespace Cpu

/-! ## What the load slots do not touch -/

theorem effect_withLoads (cpu : Cpu) (loads : Table DelaySlot 32) (i : Instruction) :
    (cpu.withLoads loads).effect i = cpu.effect i := rfl

theorem ready_withLoads (cpu : Cpu) (loads : Table DelaySlot 32) (i : Instruction) :
    (cpu.withLoads loads).ready i = (cpu.ready i).withLoads (loads.map DelaySlot.age) := by
  have hdue : ((cpu.withLoads loads).fetched i).branch.isDue = (cpu.fetched i).branch.isDue := rfl
  rw [ready, ready, redirect, redirect, hdue]
  by_cases h : (cpu.fetched i).branch.isDue = true
  · rw [if_pos h, if_pos h]
    rfl
  · rw [if_neg h, if_neg h]
    rfl

/-- What an action does to all else does not depend on the load slots. -/
theorem withoutRegisters_act (cpu : Cpu) (loads : Table DelaySlot 32) (a : Action) :
    ((cpu.withLoads loads).act a).withoutRegisters = (cpu.act a).withoutRegisters := by
  cases a with
  | write r value =>
    rw [act, act, setReg_eq, setReg_eq cpu]
    rfl
  | writeLater r value =>
    rw [act, act, setRegLater_eq, setRegLater_eq cpu]
    rfl
  | branch link target =>
    cases link with
    | none => cases target <;> rfl
    | some link =>
      cases target <;> simp only [act, takeBranch] <;> rw [setReg_eq, setReg_eq cpu] <;> rfl
  | _ => rfl

theorem withoutRegisters_after (cpu : Cpu) (loads : Table DelaySlot 32) (i : Instruction)
    (a : Action) :
    ((cpu.withLoads loads).after i a).withoutRegisters = (cpu.after i a).withoutRegisters := by
  have hact : ((((cpu.withLoads loads).ready i).act a).withoutRegisters) =
      ((cpu.ready i).act a).withoutRegisters := by
    rw [ready_withLoads, withoutRegisters_act]
  exact congrArg (fun s => s.retire.withoutRegisters) hact

/-! ## Slot 0 -/

theorem entry_zero_setReg (cpu : Cpu) (r : Reg) (value : UInt32) :
    (cpu.setReg r value).loads.entry 0 = cpu.loads.entry 0 := by
  by_cases hzero : r.val = 0
  · rw [setReg, if_pos hzero]
  rw [setReg, if_neg hzero]
  have hne : r ≠ 0 := fun h => hzero (congrArg Fin.val h)
  split
  · exact Table.entry_put_of_ne _ _ hne
  · rfl

/-- No action touches slot 0. -/
theorem entry_zero_act (cpu : Cpu) (a : Action) :
    (cpu.act a).loads.entry 0 = cpu.loads.entry 0 := by
  cases a with
  | write r value => exact entry_zero_setReg cpu r value
  | writeLater r value =>
    rw [act, loads_setRegLater, assignment]
    split
    · rfl
    · have hne : r ≠ 0 := fun h => ‹¬r.val = 0› (congrArg Fin.val h)
      rw [valueFor, if_neg hne]
      rfl
  | branch link target =>
    rw [act, loads_takeBranch]
    cases link with
    | none => rfl
    | some link => exact entry_zero_setReg cpu link.1 link.2
  | _ => rfl

end Cpu

namespace SingleLoad

variable {β : Type} [Bus β]

/-! ## One step -/

/-- A tracked processor and the one that executes for the machine differ in the load slots. -/
theorem Tracks.processor_eq {cpu : Cpu} {m : SingleLoad} (h : Tracks cpu m) :
    m.processor = cpu.withLoads (Vector.replicate 32 {}) := by
  rw [processor, h.rest, h.regs]
  rfl

/-- What a step comes to does not depend on the load slots. -/
theorem Tracks.course_eq {cpu : Cpu} {m : SingleLoad} (h : Tracks cpu m) (bus : β) :
    m.processor.course bus = cpu.course bus := by
  have heffect : ∀ i, (m.processor.fetched i).effect i = (cpu.fetched i).effect i := by
    intro i
    rw [h.processor_eq]
    exact Cpu.effect_withLoads (cpu.fetched i) _ i
  have hsettle : ∀ i (bus : β) e,
      (m.processor.fetched i).settle bus e = (cpu.fetched i).settle bus e := by
    intro i bus e
    rw [h.processor_eq]
    cases e <;> rfl
  simp only [Cpu.course, heffect, hsettle]
  rw [h.processor_eq]
  rfl

/-- **The registers agree** behind any action. -/
theorem Tracks.regs_advance {cpu : Cpu} {m : SingleLoad} (h : Tracks cpu m) (i : Instruction)
    (a : Action) : (m.advance i a).regs = (cpu.after i a).regs := by
  apply Table.ext_entry
  intro q
  show (assign (assign m.regs a.write?) (m.arriving a)).entry q = _
  rw [entry_assign, entry_assign, Cpu.regs_after, h.slots q, h.regs, arriving]
  rcases m.pending with _ | ⟨r, value⟩
  · -- nothing is on its way
    cases valueFor q a.write? <;> cases valueFor q a.load? <;> rfl
  by_cases hq : r = q
  · -- the value is on its way to this register
    have hhere : valueFor r (some (r, value)) = some value := if_pos rfl
    rw [← hq, hhere]
    show (valueFor r (if _ then none else some (r, value))).getD _ = _
    rcases valueFor r a.write? with _ | written <;> rcases valueFor r a.load? with _ | loaded
    · show (valueFor r (some (r, value))).getD _ = _
      rw [hhere]
      rfl
    all_goals rfl
  · -- it is on its way elsewhere
    have helsewhere : ∀ b : Bool, valueFor q (if b then none else some (r, value)) = none := by
      intro b
      cases b
      · exact if_neg hq
      · rfl
    rw [helsewhere, valueFor, if_neg hq]
    cases valueFor q a.write? <;> cases valueFor q a.load? <;> rfl

/-- **One step** keeps track. -/
theorem Tracks.after {cpu : Cpu} {m : SingleLoad} (h : Tracks cpu m) (i : Instruction)
    (a : Action) : Tracks (cpu.after i a) (m.advance i a) where
  regs := h.regs_advance i a
  rest := by
    show (m.processor.after i a).withoutRegisters = _
    rw [h.processor_eq, Cpu.withoutRegisters_after]
  slots := fun q => Cpu.pending?_after cpu i a q
  zero := by
    show (((cpu.ready i).act a).loads.entry 0).stage = .idle
    rw [Cpu.entry_zero_act, Cpu.loads_ready, Table.entry_map, DelaySlot.age]
    simp only [h.zero]

theorem Tracks.step_alike {cpu : Cpu} {m : SingleLoad} (h : Tracks cpu m) (bus : β) :
    Stepper.Alike Tracks (cpu.step bus) (m.step bus) := by
  rcases Cpu.step_cases cpu bus with ⟨i, a, bus', hcourse, hstep⟩ | ⟨fault, bus', s, hcourse, hstep⟩
  · rw [hstep, step, h.course_eq, hcourse]
    exact ⟨rfl, rfl, fun _ => h.after i a⟩
  · rw [hstep, step, h.course_eq, hcourse]
    exact ⟨rfl, rfl, fun hnone => nomatch hnone⟩

theorem Tracks.driveLine {cpu : Cpu} {m : SingleLoad} (h : Tracks cpu m) (level : Bool) :
    Tracks (cpu.driveLine level) ((stepper β).driveLine m level) where
  regs := h.regs
  rest := by
    show m.rest.driveLine level = _
    rw [h.rest]
    rfl
  slots := h.slots
  zero := h.zero

theorem tracks_reset : Tracks Cpu.reset reset where
  regs := rfl
  rest := rfl
  slots := by
    intro q
    show (Table.entry (Vector.replicate 32 ({} : DelaySlot)) q).pending? = none
    rw [Table.entry_replicate]
    rfl
  zero := rfl

/-! ## Whole runs -/

/-- Of the slots that follow a single pair, no two have something on their way. -/
theorem Tracks.eq_of_pending {cpu : Cpu} {m : SingleLoad} (h : Tracks cpu m) {q r : Reg}
    (hq : (cpu.loads.entry q).stage = .pending) (hr : (cpu.loads.entry r).stage = .pending) :
    q = r := by
  have hslotq := h.slots q
  have hslotr := h.slots r
  rw [DelaySlot.pending?, if_pos hq] at hslotq
  rw [DelaySlot.pending?, if_pos hr] at hslotr
  rcases hm : m.pending with _ | ⟨s, value⟩
  · rw [hm] at hslotq
    cases hslotq
  · rw [hm, valueFor] at hslotq hslotr
    by_cases hsq : s = q
    · by_cases hsr : s = r
      · rw [← hsq, hsr]
      · rw [if_neg hsr] at hslotr
        cases hslotr
    · rw [if_neg hsq] at hslotq
      cases hslotq

/-- **The load delay is a single load on its way.**  Run the processor from power-on, and beside it
the machine with one pair, in the same world.  At every boundary between steps the two have the
same general registers, and each of the 32 slots has on its way what the pair says; so at most one
slot has anything on its way, and slot 0 is empty. -/
theorem trace_singleLoad (bus : β) (script : List (Outside β)) :
    List.Forall₂ (fun s m => s.regs = m.regs ∧
        ∀ q, (s.loads.entry q).pending? = valueFor q m.pending)
      ((Cpu.stepper β).trace script .reset bus) ((stepper β).trace script reset bus) ∧
    ∀ s ∈ (Cpu.stepper β).trace script .reset bus,
      (∀ q r, (s.loads.entry q).stage = .pending → (s.loads.entry r).stage = .pending → q = r) ∧
      (s.loads.entry 0).stage = .idle := by
  have htraces := Stepper.trace_simulation (M := Cpu.stepper β) (N := stepper β) (R := Tracks)
    (fun s m level h => h.driveLine level) (fun s m bus h => h.step_alike bus) script _ _ bus
    tracks_reset
  refine and_comm.1 ((List.forall₂_and_left _ _).1 ?_)
  exact htraces.imp fun s m h => ⟨⟨fun _ _ => h.eq_of_pending, h.zero⟩, h.regs.symm, h.slots⟩

end SingleLoad

end PlayStation

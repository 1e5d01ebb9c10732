/-
  INTERRUPT AND RETURN.

  The shortest handler of an interrupt asks where to go back to and goes there:

    0x80000080   MFC0  r26, EPC
    0x80000084   NOP
    0x80000088   JR    r26
    0x8000008C   RFE

  For the program that was interrupted nothing has happened then, register 26 apart.  Five steps
  are to be followed, and each is an action: the trap of the interrupt, a late write of register
  26, a write of register 0, a jump, and the restoring of the mode.

  1. **What an action spares** (`Action.Spares`, `Cpu.spared_after`): the last four change no general
     register but register 26, and neither HI:LO nor coprocessor 2.  The first one commits the load
     that was on its way and leaves nothing on its way (`Entered`).

  2. **Where they go**: the two counters are advanced action by action
     (`TwoCounters.counters_after`).  The value that the late write has on its way arrives during the
     `NOP`, in time for the jump.

  3. **The mode** (`Entered.bit_status_restored`): what the exception pushes, the return pops.  In
     between the processor is in kernel mode, where coprocessor 0 may be used, with interrupts off.
-/
import PlayStation.Proofs.Cpu.BranchDelay
import PlayStation.Proofs.Cpu.DelaySlotMark
import PlayStation.Proofs.Cpu.Exceptions
import PlayStation.Proofs.Cpu.Faults

namespace PlayStation

open Word (bit)

/-! ## The mode pairs -/

namespace SystemControl

variable {c : SystemControl}

/-- The mode pairs move down by one place; the oldest pair stays where it is as well. -/
theorem bit_status_restoreMode (c : SystemControl) {n : UInt32} (hn : n < 32) :
    bit c.restoreMode.status n = if n < 4 then bit c.status (n + 2) else bit c.status n := by
  have hmask : bit 0x0F n = decide (n < 4) :=
    Word.forall_place (P := fun n => bit 0x0F n = decide (n < 4)) (by decide) n hn
  have hup : n < 4 → n + 2 < 32 :=
    Word.forall_place (P := fun n => n < 4 → n + 2 < 32) (by decide) n hn
  show bit (Word.merge c.status 0x0F (c.status >>> 2)) n = _
  rw [Word.bit_merge, hmask, Word.bit_shiftRight _ (by decide) hn]
  by_cases h : n < 4
  · rw [decide_eq_true h, if_pos rfl, if_pos h, decide_eq_true (hup h), Bool.true_and]
  · rw [decide_eq_false h, if_neg Bool.false_ne_true, if_neg h]

/-- With interrupts disabled none is pending. -/
theorem interruptPending_of_disabled (h : bit c.status 0 = false) :
    c.interruptPending = false := by
  rw [interruptPending, h, Bool.false_and]

/-- In kernel mode coprocessor 0 may be used. -/
theorem usable_zero_of_kernelMode (h : bit c.status 1 = false) : c.usable .zero = true := by
  rw [usable, kernelMode, h]
  rfl

end SystemControl

/-- RAM holds the handler: `MFC0 r26, EPC`, `NOP`, `JR r26`, `RFE`. -/
structure Memory.HoldsReturn (m : Memory) : Prop where
  ask : m.ramWord 0x80 = 0x401A7000
  wait : m.ramWord 0x84 = 0x00000000
  jump : m.ramWord 0x88 = 0x03400008
  restore : m.ramWord 0x8C = 0x42000010

/-! ## What an action spares -/

/-- System control behind an action that is no trap. -/
def SystemControl.behind (c : SystemControl) : Action → SystemControl
  | .writeSystem r value => c.write r.val value
  | .restoreMode => c.restoreMode
  | _ => c

/-- Beside system control, and where the processor goes, the action changes at most register `k`. -/
def Action.Spares (k : Reg) : Action → Prop
  | .nothing | .branch none _ | .restoreMode | .writeSystem _ _ => True
  | .write r _ | .writeLater r _ => r.val = 0 ∨ r = k
  | _ => False

namespace Cpu

/-- Beside register `k`, system control, and where the processor goes, `after` has what `before`
had, and nothing is on its way. -/
structure Spared (k : Reg) (before after : Cpu) : Prop where
  regs : ∀ r, r ≠ k → after.reg r = before.reg r
  loads : ∀ r, r ≠ k → (after.loads.entry r).pending? = none
  hiLo : after.hiLo = before.hiLo
  geometry : after.geometry = before.geometry

variable {k : Reg} {cpu : Cpu} {a : Action}

theorem Spared.trans {before between after : Cpu} (h : Spared k before between)
    (h' : Spared k between after) : Spared k before after where
  regs r hr := (h'.regs r hr).trans (h.regs r hr)
  loads := h'.loads
  hiLo := h'.hiLo.trans h.hiLo
  geometry := h'.geometry.trans h.geometry

/-- What an action writes at once or late is not written to another register. -/
theorem valueFor_of_spares (ha : a.Spares k) {r : Reg} (hr : r ≠ k) :
    valueFor r a.write? = none ∧ valueFor r a.load? = none := by
  have hassigned : ∀ {q : Reg} {value : UInt32}, q.val = 0 ∨ q = k →
      valueFor r (assignment q value) = none := by
    rintro q value (hzero | rfl)
    · rw [assignment, if_pos hzero]
      rfl
    · unfold assignment
      split
      · rfl
      · rw [valueFor, if_neg hr.symm]
  cases a with
  | write q value => exact ⟨hassigned ha, rfl⟩
  | writeLater q value => exact ⟨rfl, hassigned ha⟩
  | branch link target =>
    cases link with
    | none => exact ⟨rfl, rfl⟩
    | some link => exact ha.elim
  | _ => exact ⟨rfl, rfl⟩

/-- HI:LO and the coprocessors behind an action. -/
theorem coprocessors_after (cpu : Cpu) (i : Instruction) (ha : a.Spares k) :
    (cpu.after i a).hiLo = cpu.hiLo ∧ (cpu.after i a).geometry = cpu.geometry ∧
    (cpu.after i a).system = cpu.system.behind a := by
  have hready : (cpu.ready i).hiLo = cpu.hiLo ∧ (cpu.ready i).geometry = cpu.geometry ∧
      (cpu.ready i).system = cpu.system := by
    unfold ready redirect
    split <;> exact ⟨rfl, rfl, rfl⟩
  show ((cpu.ready i).act a).hiLo = _ ∧ ((cpu.ready i).act a).geometry = _ ∧
    ((cpu.ready i).act a).system = _
  cases a with
  | write r value =>
    rw [act, setReg_eq]
    exact hready
  | writeLater r value =>
    rw [act, setRegLater_eq]
    exact hready
  | branch link target =>
    cases link with
    | none => cases target <;> exact hready
    | some link => exact ha.elim
  | writeSystem r value => exact ⟨hready.1, hready.2.1, congrArg (·.write r.val value) hready.2.2⟩
  | restoreMode => exact ⟨hready.1, hready.2.1, congrArg SystemControl.restoreMode hready.2.2⟩
  | nothing => exact hready
  | _ => exact ha.elim

/-- **An action that spares all but one register** keeps the others, if nothing is on its way to
them. -/
theorem spared_after (i : Instruction) (ha : a.Spares k)
    (hloads : ∀ r, r ≠ k → (cpu.loads.entry r).pending? = none) :
    Spared k cpu (cpu.after i a) where
  regs r hr := by
    obtain ⟨hwrite, hload⟩ := valueFor_of_spares ha hr
    rw [reg_after cpu i hwrite hload, hloads r hr, reg]
    by_cases hzero : r.val = 0
    · rw [if_pos hzero, if_pos hzero]
    · rw [if_neg hzero, if_neg hzero]
      rfl
  loads r hr := by rw [pending?_after, (valueFor_of_spares ha hr).2]
  hiLo := (coprocessors_after cpu i ha).1
  geometry := (coprocessors_after cpu i ha).2.1

/-! ## The handler -/

/-- The processor `now` handles the interrupt behind which it was `taken`: the addresses of the next
two instructions are given, and register 26 is its own. -/
structure Handling (taken now : Cpu) (pc npc : UInt32) : Prop where
  spared : Spared 26 taken now
  system : now.system = taken.system
  counters : (now.pc, now.nextPc) = (pc, npc)

section Steps

variable {taken now : Cpu} {pc npc word : UInt32} {m : Memory}

/-- One step of the handler. -/
theorem Handling.step (h : Handling taken now pc npc) (hdisabled : bit taken.system.status 0 = false)
    (haligned : AccessWidth.word.isAligned pc = true) (hram : Region.of (physical pc) = .ram)
    (hword : m.ramWord pc = word) (ha : a.Spares 26)
    (hsettle : (now.fetched ⟨word⟩).settle m ((now.fetched ⟨word⟩).effect ⟨word⟩) = (.ok a, m)) :
    now.step m = .done (now.after ⟨word⟩ a, m) ∧ Spared 26 taken (now.after ⟨word⟩ a) ∧
      (now.after ⟨word⟩ a).system = taken.system.behind a := by
  obtain rfl : now.pc = pc := congrArg Prod.fst h.counters
  have hquiet : now.system.interruptPending = false := by
    rw [h.system]
    exact SystemControl.interruptPending_of_disabled hdisabled
  have hcourse := course_ram hquiet haligned hram hword hsettle
  have hspared := h.spared.trans (spared_after ⟨word⟩ ha h.spared.loads)
  exact ⟨step_of_course hcourse, hspared, h.system ▸ (coprocessors_after now ⟨word⟩ ha).2.2⟩

/-- Where a step of the handler goes, unless it is a jump. -/
theorem Handling.counters_next (h : Handling taken now pc npc) {i : Instruction}
    (hfollow : (TwoCounters.of now).follow (now.after i a).system.handler a =
      (now.nextPc, now.nextPc + 4)) :
    ((now.after i a).pc, (now.after i a).nextPc) = (npc, npc + 4) := by
  obtain rfl : now.nextPc = npc := congrArg Prod.snd h.counters
  rw [TwoCounters.counters_after, hfollow]

variable (hcode : m.HoldsReturn) (hdisabled : bit taken.system.status 0 = false)

include hcode hdisabled

/-- `MFC0 r26, EPC` puts the return address on its way. -/
theorem Handling.ask (h : Handling taken now 0x80000080 0x80000084)
    (husable : taken.system.usable .zero = true) :
    ∃ next, now.step m = .done (next, m) ∧ Handling taken next 0x80000084 0x80000088 ∧
      (next.loads.entry 26).pending? = some taken.system.epc := by
  have heffect : (now.fetched ⟨0x401A7000⟩).effect ⟨0x401A7000⟩ =
      .writeLater 26 taken.system.epc := by
    rw [← h.system] at husable ⊢
    exact if_pos husable
  obtain ⟨hstep, hspared, hsystem⟩ := h.step (a := .writeLater 26 taken.system.epc) hdisabled
    (by decide) (by decide) hcode.ask (.inr rfl) (by rw [heffect]; rfl)
  refine ⟨_, hstep, ⟨hspared, hsystem, h.counters_next rfl⟩, ?_⟩
  rw [pending?_after]
  rfl

/-- `NOP` lets it arrive. -/
theorem Handling.wait {value : UInt32} (h : Handling taken now 0x80000084 0x80000088)
    (hload : (now.loads.entry 26).pending? = some value) :
    ∃ next, now.step m = .done (next, m) ∧ Handling taken next 0x80000088 0x8000008C ∧
      next.reg 26 = value := by
  obtain ⟨hstep, hspared, hsystem⟩ := h.step (a := .write 0 ((now.fetched ⟨0⟩).rt ⟨0⟩ <<< 0))
    hdisabled (by decide) (by decide) hcode.wait (.inl rfl) rfl
  refine ⟨_, hstep, ⟨hspared, hsystem, h.counters_next rfl⟩, ?_⟩
  rw [reg_after now _ rfl rfl, hload]
  rfl

/-- `JR r26` goes there, behind the instruction in its delay slot. -/
theorem Handling.jump {target : UInt32} (h : Handling taken now 0x80000088 0x8000008C)
    (hreg : now.reg 26 = target) :
    ∃ next, now.step m = .done (next, m) ∧ Handling taken next 0x8000008C target := by
  have heffect : (now.fetched ⟨0x03400008⟩).effect ⟨0x03400008⟩ = .branch none (some target) :=
    hreg ▸ rfl
  obtain ⟨hstep, hspared, hsystem⟩ := h.step (a := .branch none (some target)) hdisabled
    (by decide) (by decide) hcode.jump trivial (by rw [heffect]; rfl)
  refine ⟨_, hstep, hspared, hsystem, ?_⟩
  rw [TwoCounters.counters_after]
  exact congrArg (·, target) (congrArg Prod.snd h.counters)

/-- `RFE` restores the mode. -/
theorem Handling.restore {target : UInt32} (h : Handling taken now 0x8000008C target)
    (husable : taken.system.usable .zero = true) :
    ∃ next, now.step m = .done (next, m) ∧ Spared 26 taken next ∧
      (∀ r, (next.loads.entry r).pending? = none) ∧
      next.branch.stage ≠ .pending ∧ next.system = taken.system.restoreMode ∧ next.pc = target := by
  have heffect : (now.fetched ⟨0x42000010⟩).effect ⟨0x42000010⟩ = .restoreMode := by
    rw [← h.system] at husable
    exact if_pos husable
  obtain ⟨hstep, hspared, hsystem⟩ := h.step (a := .restoreMode) hdisabled (by decide) (by decide)
    hcode.restore trivial (by rw [heffect]; rfl)
  have hbranch : (now.after ⟨0x42000010⟩ .restoreMode).branch.stage ≠ .pending := by
    rw [TwoCounters.branch_after]
    exact nofun
  exact ⟨_, hstep, hspared, pending?_after now _ .restoreMode, hbranch, hsystem,
    congrArg Prod.fst (h.counters_next rfl)⟩

end Steps

/-! ## There and back -/

variable {β : Type} [Bus β]

/-- Steps until a fault, at most `n` times. -/
def stepFor (cpu : Cpu) (bus : β) : Nat → Outcome (Cpu × β)
  | 0 => .done (cpu, bus)
  | n + 1 => (cpu.step bus).andThen fun s => s.1.stepFor s.2 n

theorem stepFor_succ {cpu cpu' : Cpu} {bus bus' : β} (n : Nat)
    (h : cpu.step bus = .done (cpu', bus')) : cpu.stepFor bus (n + 1) = cpu'.stepFor bus' n := by
  rw [stepFor, h]
  rfl

/-- The processor goes on as it was `before`, an interrupt having been `taken` in between. -/
structure Resumed (before taken after : Cpu) : Prop where
  /-- A load that was on its way has arrived; register 26 belongs to the handler. -/
  regs : ∀ r : Reg, r ≠ 26 → after.reg r =
    if r.val = 0 then 0 else ((before.loads.entry r).pending?).getD (before.reg r)
  hiLo : after.hiLo = before.hiLo
  geometry : after.geometry = before.geometry
  /-- The present mode pair and the one before it are back, and the rest of the status. -/
  status : ∀ n : UInt32, n < 32 → n < 4 ∨ 6 ≤ n →
    bit after.system.status n = bit before.system.status n
  loads : ∀ r, (after.loads.entry r).stage ≠ .pending
  branch : after.branch.stage ≠ .pending
  pc : after.pc = after.system.epc
  epc : after.system.epc = if taken.inDelaySlot then before.pc - 4 else before.pc

/-- What the exception pushes the return pops, but for the oldest pair. -/
theorem Entered.bit_status_restored {t : Trap} {before taken : Cpu} (h : Entered t before taken)
    {n : UInt32} (hn : n < 32) (hplace : n < 4 ∨ 6 ≤ n) :
    bit taken.system.restoreMode.status n = bit before.system.status n := by
  rw [SystemControl.bit_status_restoreMode _ hn]
  rcases hplace with hlow | hhigh
  · have hup : n + 2 < 32 ∧ ¬n + 2 < 2 ∧ n + 2 < 6 :=
      Word.forall_place (P := fun n => n < 4 → n + 2 < 32 ∧ ¬n + 2 < 2 ∧ n + 2 < 6) (by decide)
        n hn hlow
    rw [if_pos hlow, h.status _ hup.1, if_neg hup.2.1, if_pos hup.2.2, UInt32.add_sub_cancel]
  · have hout : ¬n < 4 ∧ ¬n < 2 ∧ ¬n < 6 :=
      Word.forall_place (P := fun n => 6 ≤ n → ¬n < 4 ∧ ¬n < 2 ∧ ¬n < 6) (by decide) n hn hhigh
    rw [if_neg hout.1, h.status _ hn, if_neg hout.2.1, if_neg hout.2.2]

/-- A pending interrupt is taken. -/
theorem course_of_pending {cpu : Cpu} (bus : β) (h : cpu.system.interruptPending = true) :
    cpu.course bus = (.ok (cpu.instruction, .trap { cause := .interrupt }), bus) :=
  if_pos h

/-- **An interrupt is transparent.**  With an interrupt pending, vectors in RAM, and the handler
there, five steps return.  They leave memory alone, and the processor goes on as it was. -/
theorem step_interrupt_return (cpu : Cpu) (m : Memory)
    (hpending : cpu.system.interruptPending = true) (hvectors : cpu.system.bootVectors = false)
    (hcode : m.HoldsReturn) :
    ∃ taken last, cpu.step m = .done (taken, m) ∧ taken.stepFor m 4 = .done (last, m) ∧
      Resumed cpu taken last := by
  obtain ⟨taken, htaken⟩ : ∃ taken, taken =
    cpu.after cpu.instruction (.trap { cause := .interrupt }) := ⟨_, rfl⟩
  have hentered : Entered { cause := .interrupt } cpu taken := htaken ▸ entered_after cpu _ _
  have hstep₀ : cpu.step m = .done (taken, m) :=
    htaken ▸ step_of_course (course_of_pending m hpending)
  -- behind the interrupt
  have hdisabled : bit taken.system.status 0 = false := hentered.status 0 (by decide)
  have husable : taken.system.usable .zero = true :=
    SystemControl.usable_zero_of_kernelMode (hentered.status 1 (by decide))
  have hidle : ∀ r, (taken.loads.entry r).pending? = none :=
    fun r => DelaySlot.pending?_eq_none_iff.2 (hentered.loads r)
  have h₀ : Handling taken taken 0x80000080 0x80000084 := by
    refine ⟨⟨fun _ _ => rfl, fun r _ => hidle r, rfl, rfl⟩, rfl, ?_⟩
    have hpc : taken.pc = 0x80000080 := by
      rw [hentered.pc]
      exact if_neg (ne_true_of_eq_false hvectors)
    rw [nextPc, hentered.branch, if_neg nofun, hpc]
    rfl
  obtain ⟨asked, hstep₁, h₁, hload⟩ := h₀.ask hcode hdisabled husable
  obtain ⟨waited, hstep₂, h₂, hreg⟩ := h₁.wait hcode hdisabled hload
  obtain ⟨jumped, hstep₃, h₃⟩ := h₂.jump hcode hdisabled hreg
  obtain ⟨last, hstep₄, hspared, hloads, hbranch, hsystem, hpc⟩ :=
    h₃.restore hcode hdisabled husable
  refine ⟨taken, last, hstep₀, ?_, ?_⟩
  · rw [stepFor_succ 3 hstep₁, stepFor_succ 2 hstep₂, stepFor_succ 1 hstep₃, stepFor_succ 0 hstep₄]
    rfl
  · exact
      { regs := fun r hr => (hspared.regs r hr).trans (hentered.regs r)
        hiLo := hspared.hiLo.trans hentered.hiLo
        geometry := hspared.geometry.trans hentered.geometry
        status := fun n hn hplace => hsystem ▸ hentered.bit_status_restored hn hplace
        loads := fun r => DelaySlot.pending?_eq_none_iff.1 (hloads r)
        branch := hbranch
        pc := by rw [hpc, hsystem]; rfl
        epc := by rw [hsystem, hentered.inDelaySlot]; exact hentered.epc }

/-- The handler in RAM. -/
def returning : Memory :=
  (((Memory.blank.setRamWord 0x80 0x401A7000).setRamWord 0x84 0x00000000).setRamWord
    0x88 0x03400008).setRamWord 0x8C 0x42000010

theorem holdsReturn_returning : returning.HoldsReturn where
  ask := by
    rw [returning, Memory.ramWord_setRamWord_of_ne _ (by decide),
      Memory.ramWord_setRamWord_of_ne _ (by decide), Memory.ramWord_setRamWord_of_ne _ (by decide),
      Memory.ramWord_setRamWord_self]
  wait := by
    rw [returning, Memory.ramWord_setRamWord_of_ne _ (by decide),
      Memory.ramWord_setRamWord_of_ne _ (by decide), Memory.ramWord_setRamWord_self]
  jump := by
    rw [returning, Memory.ramWord_setRamWord_of_ne _ (by decide), Memory.ramWord_setRamWord_self]
  restore := Memory.ramWord_setRamWord_self _ _ _

/-- A program in user mode that is interrupted in a delay slot, with a load on its way. -/
def interrupted : Cpu :=
  { reset.setRegLater .link 0x1234 with
    pc := 0x80010004, branched := true, branch := .schedule 0x80020000
    system := { SystemControl.reset with status := 0x10900403, cause := 0x00000400 } }

/-- It goes on at the branch in front of that slot, in user mode, and the load has arrived. -/
theorem step_interrupt_return_slot : ∃ taken last,
    interrupted.step returning = .done (taken, returning) ∧
    taken.stepFor returning 4 = .done (last, returning) ∧ last.pc = 0x80010000 ∧
    last.system.kernelMode = false ∧ last.reg .link = 0x1234 := by
  obtain ⟨taken, last, hstep, hsteps, hresumed⟩ :=
    step_interrupt_return interrupted returning (by decide) (by decide) holdsReturn_returning
  refine ⟨taken, last, hstep, hsteps, ?_, ?_, ?_⟩
  · have hslot : taken.inDelaySlot = true := by
      have hnoted := inDelaySlot_step interrupted returning
      rwa [hstep] at hnoted
    rw [hresumed.pc, hresumed.epc, hslot]
    rfl
  · rw [SystemControl.kernelMode, hresumed.status 1 (by decide) (.inl (by decide))]
    decide
  · rw [hresumed.regs .link (by decide)]
    decide

end Cpu

end PlayStation

/-
  PRECISE EXCEPTIONS.

  When a step raises an exception, the instruction that caused it has not happened: software that
  looks at the machine from the handler finds it as it was in front of that instruction, and finds
  in system control what it needs to go on.

  `Entered` says so, field by field.  Beside the loads that were on their way, and arrive, nothing
  that a program can see changes except in system control, and there the mode pairs are pushed, the
  cause is named, and the return address is kept.

  1. **System control** (`SystemControl.enter`): the registers that an exception packs, bit by bit.

  2. **The processor** (`entered_after`): the action `trap` leads from any processor to one that has
     entered the exception.

  3. **The step** (`step_exception`): a step in memory whose table entry is a trap enters that
     exception and leaves memory alone; one without leaves the particulars of the last exception
     as they are.
-/
import PlayStation.Proofs.Bits
import PlayStation.Proofs.Cpu.ExceptionTable
import PlayStation.Proofs.Cpu.Registers

namespace PlayStation

open Word (bit)

namespace SystemControl

/-! ## Registers of system control -/

/-- The coprocessor of the last unusable-coprocessor exception, by number. -/
def coprocessorError (c : SystemControl) : UInt32 := (c.cause >>> 28) &&& 3

variable (c : SystemControl) (cause : ExceptionCause) (epc : UInt32) (inDelaySlot : Bool)

/-- The mode pairs move up by one place and zeros come in; the rest of the status stays. -/
theorem bit_status_enter {n : UInt32} (hn : n < 32) :
    bit (c.enter cause epc inDelaySlot).status n =
      if n < 2 then false else if n < 6 then bit c.status (n - 2) else bit c.status n := by
  have hmask : bit 0x3F n = decide (n < 6) :=
    Word.forall_place (P := fun n => bit 0x3F n = decide (n < 6)) (by decide) n hn
  have hlow : n < 2 → n < 6 := fun h => UInt32.lt_trans h (by decide)
  have hstart : (2 ≤ n) = ¬n < 2 := propext UInt32.not_lt.symm
  show bit (Word.merge c.status 0x3F (c.status <<< 2)) n = _
  rw [Word.bit_merge, hmask, Word.bit_shiftLeft _ (by decide) hn]
  simp only [hstart, decide_eq_true_eq, decide_not]
  by_cases h₂ : n < 2
  · rw [if_pos (hlow h₂), if_pos h₂, decide_eq_true h₂]
    rfl
  · rw [if_neg h₂, decide_eq_false h₂]
    rfl

theorem exceptionCode_enter : (c.enter cause epc inDelaySlot).exceptionCode = cause.code := by
  have hcode : cause.code &&& 0x1F = cause.code := by cases cause <;> rfl
  show (Word.withBit (Word.merge c.cause ((0x1F : UInt32) <<< 2) (cause.code <<< 2)) 31
    inDelaySlot >>> 2) &&& 0x1F = cause.code
  rw [Word.withBit_eq_merge, Word.read_merge_of_disjoint _ _ (by decide) (by decide),
    Word.read_merge_self _ _ (by decide) (by decide), hcode]

theorem branchDelay_enter : (c.enter cause epc inDelaySlot).branchDelay = inDelaySlot := by
  show bit (Word.withBit _ 31 inDelaySlot) 31 = inDelaySlot
  rw [Word.bit_withBit _ _ (by decide) (by decide), if_pos rfl]

theorem coprocessorError_enter :
    (c.enter cause epc inDelaySlot).coprocessorError = c.coprocessorError := by
  show (Word.withBit (Word.merge c.cause _ _) 31 inDelaySlot >>> 28) &&& 3 = _
  rw [Word.withBit_eq_merge, Word.read_merge_of_disjoint _ _ (by decide) (by decide),
    Word.read_merge_of_disjoint _ _ (by decide) (by decide)]
  rfl

theorem coprocessorError_nameCoprocessor (n : Coprocessor) :
    (c.nameCoprocessor n).coprocessorError = n.number := by
  have hnumber : n.number &&& 3 = n.number := by cases n <;> rfl
  show (Word.merge c.cause ((3 : UInt32) <<< 28) (n.number <<< 28) >>> 28) &&& 3 = _
  rw [Word.read_merge_self _ _ (by decide) (by decide), hnumber]

/-- The places of the cause register that an exception writes. -/
def causePlaces : List UInt32 := [2, 3, 4, 5, 6, 28, 29, 31]

theorem bit_cause_enter {n : UInt32} (hn : n < 32) (hplace : n ∉ causePlaces) :
    bit (c.enter cause epc inDelaySlot).cause n = bit c.cause n := by
  have hmask : n ≠ 31 ∧ bit 0x7C n = false :=
    Word.forall_place (P := fun n => n ∉ causePlaces → n ≠ 31 ∧ bit 0x7C n = false) (by decide)
      n hn hplace
  show bit (Word.withBit (Word.merge c.cause 0x7C _) 31 inDelaySlot) n = _
  rw [Word.bit_withBit _ _ (by decide) hn, if_neg hmask.1, Word.bit_merge, hmask.2]
  rfl

theorem bit_cause_nameCoprocessor (k : Coprocessor) {n : UInt32} (hn : n < 32)
    (hplace : n ∉ causePlaces) : bit (c.nameCoprocessor k).cause n = bit c.cause n := by
  have hmask : bit 0x30000000 n = false :=
    Word.forall_place (P := fun n => n ∉ causePlaces → bit 0x30000000 n = false) (by decide)
      n hn hplace
  show bit (Word.merge c.cause 0x30000000 _) n = _
  rw [Word.bit_merge, hmask]
  rfl

theorem bootVectors_enter : (c.enter cause epc inDelaySlot).bootVectors = c.bootVectors := by
  show bit (c.enter cause epc inDelaySlot).status 22 = _
  rw [bit_status_enter _ _ _ _ (by decide), if_neg (by decide), if_neg (by decide)]
  rfl

/-- What a trap leaves in system control beside its cause. -/
def note (t : Trap) : SystemControl :=
  let c := match t.badAddress with
    | some address => { c with badAddress := address }
    | none => c
  match t.coprocessor with
  | some n => c.nameCoprocessor n
  | none => c

theorem status_note (t : Trap) : (c.note t).status = c.status := by
  obtain ⟨cause, badAddress, coprocessor⟩ := t
  cases badAddress <;> cases coprocessor <;> rfl

theorem breakpoints_note (t : Trap) : (c.note t).breakpoints = c.breakpoints := by
  obtain ⟨cause, badAddress, coprocessor⟩ := t
  cases badAddress <;> cases coprocessor <;> rfl

theorem badAddress_note (t : Trap) :
    (c.note t).badAddress = t.badAddress.getD c.badAddress := by
  obtain ⟨cause, badAddress, coprocessor⟩ := t
  cases badAddress <;> cases coprocessor <;> rfl

theorem coprocessorError_note (t : Trap) :
    (c.note t).coprocessorError =
      match t.coprocessor with
      | some n => n.number
      | none => c.coprocessorError := by
  obtain ⟨cause, badAddress, coprocessor⟩ := t
  cases coprocessor with
  | none => cases badAddress <;> rfl
  | some n => cases badAddress <;> exact coprocessorError_nameCoprocessor _ n

theorem bit_cause_note (t : Trap) {n : UInt32} (hn : n < 32) (hplace : n ∉ causePlaces) :
    bit (c.note t).cause n = bit c.cause n := by
  obtain ⟨cause, badAddress, coprocessor⟩ := t
  cases coprocessor with
  | none => cases badAddress <;> rfl
  | some k => cases badAddress <;> exact bit_cause_nameCoprocessor _ k hn hplace

end SystemControl

namespace Cpu

/-! ## Entering an exception -/

/-- The state `after` is the state `before` with the exception of a trap entered. -/
structure Entered (t : Trap) (before after : Cpu) : Prop where
  /-- Loads that were on their way have arrived; no other register changed. -/
  regs : ∀ r, after.reg r =
    if r.val = 0 then 0 else ((before.loads.entry r).pending?).getD (before.reg r)
  hiLo : after.hiLo = before.hiLo
  geometry : after.geometry = before.geometry
  /-- Nothing is on its way to a register any more. -/
  loads : ∀ r, (after.loads.entry r).stage ≠ .pending
  /-- The mode pairs have moved up by one place; the rest of the status is the same. -/
  status : ∀ n : UInt32, n < 32 → bit after.system.status n =
    if n < 2 then false else if n < 6 then bit before.system.status (n - 2)
    else bit before.system.status n
  code : after.system.exceptionCode = t.cause.code
  /-- The instruction sat behind a branch if the one before it was one. -/
  inDelaySlot : after.inDelaySlot = before.branched
  branchDelay : after.system.branchDelay = before.branched
  /-- The number of a coprocessor is left if the trap names one. -/
  coprocessor : after.system.coprocessorError =
    match t.coprocessor with
    | some n => n.number
    | none => before.system.coprocessorError
  /-- The rest of the cause, the interrupts in it included, is the same. -/
  cause : ∀ n : UInt32, n < 32 → n ∉ SystemControl.causePlaces →
    bit after.system.cause n = bit before.system.cause n
  /-- To return is to execute the instruction again, or the branch in front of it. -/
  epc : after.system.epc = if before.branched then before.pc - 4 else before.pc
  badAddress : after.system.badAddress = t.badAddress.getD before.system.badAddress
  breakpoints : after.system.breakpoints = before.system.breakpoints
  /-- The handler is next. -/
  pc : after.pc = if bit before.system.status 22 then 0xBFC00180 else 0x80000080
  /-- No branch is on its way, and the handler does not sit behind one. -/
  branch : after.branch.stage = .idle
  branched : after.branched = false

theorem after_trap (cpu : Cpu) (i : Instruction) (t : Trap) :
    cpu.after i (.trap t) = ((cpu.fetched i).trap t).retire :=
  congrArg retire (redirect_trap (cpu.fetched i) t)

theorem system_after_trap (cpu : Cpu) (i : Instruction) (t : Trap) :
    (cpu.after i (.trap t)).system =
      (cpu.system.note t).enter t.cause (if cpu.branched then cpu.pc - 4 else cpu.pc)
        cpu.branched := by
  rw [after_trap]
  rfl

/-- **The action of a trap** leads into its exception. -/
theorem entered_after (cpu : Cpu) (i : Instruction) (t : Trap) :
    Entered t cpu (cpu.after i (.trap t)) where
  regs r := reg_after cpu i rfl rfl
  hiLo := by rw [after_trap]; rfl
  geometry := by rw [after_trap]; rfl
  loads r := DelaySlot.pending?_eq_none_iff.1 (pending?_after cpu i (.trap t) r)
  status := by
    intro n hn
    rw [system_after_trap, SystemControl.bit_status_enter _ _ _ _ hn, SystemControl.status_note]
  code := by rw [system_after_trap, SystemControl.exceptionCode_enter]
  inDelaySlot := by rw [after_trap]; rfl
  branchDelay := by rw [system_after_trap, SystemControl.branchDelay_enter]
  coprocessor := by
    rw [system_after_trap, SystemControl.coprocessorError_enter,
      SystemControl.coprocessorError_note]
  cause := by
    intro n hn hplace
    rw [system_after_trap, SystemControl.bit_cause_enter _ _ _ _ hn hplace,
      SystemControl.bit_cause_note _ _ hn hplace]
  epc := by rw [system_after_trap]; rfl
  badAddress := by
    rw [system_after_trap]
    exact SystemControl.badAddress_note cpu.system t
  breakpoints := by
    rw [system_after_trap]
    exact SystemControl.breakpoints_note cpu.system t
  pc := by
    have hpc : (cpu.after i (.trap t)).pc = (cpu.after i (.trap t)).system.handler - 4 + 4 := by
      rw [after_trap]
      rfl
    rw [hpc, UInt32.sub_add_cancel, system_after_trap, SystemControl.handler,
      SystemControl.bootVectors_enter, SystemControl.bootVectors, SystemControl.status_note]
  branch := by rw [after_trap]; rfl
  branched := by rw [after_trap]; rfl

/-! ## Going on without one -/

/-- What only an exception writes is the same in both states. -/
structure Undisturbed (before after : SystemControl) : Prop where
  epc : after.epc = before.epc
  badAddress : after.badAddress = before.badAddress
  /-- Software can write two flags of the cause, to ask for an interrupt. -/
  cause : ∀ n : UInt32, n < 32 → n ≠ 8 → n ≠ 9 → bit after.cause n = bit before.cause n

theorem Undisturbed.refl (c : SystemControl) : Undisturbed c c where
  epc := rfl
  badAddress := rfl
  cause _ _ _ _ := rfl

theorem undisturbed_write (c : SystemControl) (index : Nat) (value : UInt32) :
    Undisturbed c (c.write index value) := by
  unfold SystemControl.write
  split
  case h_8 =>
    -- the cause register
    refine ⟨rfl, rfl, fun n hn h₈ h₉ => ?_⟩
    have hmask : bit 0x300 n = false :=
      Word.forall_place (P := fun n => n ≠ 8 → n ≠ 9 → bit 0x300 n = false) (by decide) n hn h₈ h₉
    show bit (Word.merge c.cause 0x300 value) n = _
    rw [Word.bit_merge, hmask]
    rfl
  all_goals exact ⟨rfl, rfl, fun _ _ _ _ => rfl⟩

/-- Only a trap disturbs. -/
theorem undisturbed_after (cpu : Cpu) (i : Instruction) {a : Action} (ha : ∀ t, a ≠ .trap t) :
    Undisturbed cpu.system (cpu.after i a).system := by
  have hready : (cpu.ready i).system = cpu.system := by
    unfold ready redirect
    split <;> rfl
  rw [← hready]
  show Undisturbed _ ((cpu.ready i).act a).system
  cases a with
  | trap t => exact absurd rfl (ha t)
  | write r value =>
    rw [act, setReg_eq]
    exact .refl _
  | writeLater r value =>
    rw [act, setRegLater_eq]
    exact .refl _
  | branch link target =>
    cases link with
    | none => cases target <;> exact .refl _
    | some link =>
      cases target <;> simp only [act, takeBranch] <;> rw [setReg_eq] <;> exact .refl _
  | writeSystem r value => exact undisturbed_write _ _ _
  | restoreMode => exact ⟨rfl, rfl, fun _ _ _ _ => rfl⟩
  | _ => exact .refl _

/-! ## The step -/

/-- **Exceptions are precise.**  A step in memory for which the table has an exception returns, has
entered that exception, and has left memory alone.  A step for which it has none, if it returns,
has entered no exception. -/
theorem step_exception (cpu : Cpu) (m : Memory) :
    (∀ t, cpu.exception? m = some t →
      t.Proper ∧ ∃ cpu', cpu.step m = .done (cpu', m) ∧ Entered t cpu cpu') ∧
    (cpu.exception? m = none →
      ∀ cpu' m', cpu.step m = .done (cpu', m') → Undisturbed cpu.system cpu'.system) := by
  rcases course_memory cpu m with ⟨t, i, htable, hcourse⟩ | ⟨htable, hplain⟩
  · refine ⟨fun t' ht' => ?_, fun hnone => nomatch htable.symm.trans hnone⟩
    obtain rfl : t = t' := Option.some.inj (htable.symm.trans ht')
    exact ⟨proper_of_exception? cpu htable, _, step_of_course hcourse, entered_after cpu i t⟩
  · refine ⟨fun t ht => (nomatch htable.symm.trans ht), fun _ cpu' m' hstep => ?_⟩
    obtain ⟨i, a, hcourse, rfl⟩ := course_of_step hstep
    exact undisturbed_after cpu i (hplain i a m' hcourse)

/-- A jump to an odd address, with a load on its way: the fetch behind the jump is refused. -/
theorem step_exception_odd :
    let cpu := { Cpu.reset.setRegLater 7 0x1234 with pc := 0x80000001, branched := true }
    cpu.exception? .blank = some { cause := .addressErrorLoad, badAddress := some 0x80000001 } ∧
    ∃ cpu', cpu.step Memory.blank = .done (cpu', .blank) ∧ cpu'.reg 7 = 0x1234 ∧
      cpu'.system.epc = 0x7FFFFFFD ∧ cpu'.system.badAddress = 0x80000001 ∧
      cpu'.pc = 0x80000080 := by
  intro cpu
  have htable : cpu.exception? .blank =
    some { cause := .addressErrorLoad, badAddress := some 0x80000001 } := by decide
  obtain ⟨-, cpu', hstep, hentered⟩ := (step_exception cpu .blank).1 _ htable
  refine ⟨htable, cpu', hstep, ?_, ?_, hentered.badAddress, ?_⟩
  · rw [hentered.regs]
    decide
  · rw [hentered.epc]
    decide
  · rw [hentered.pc]
    decide

end Cpu

end PlayStation

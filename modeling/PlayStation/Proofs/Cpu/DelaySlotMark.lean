/-
  The DELAY-SLOT MARK.

  The instruction behind a branch sits in its delay slot, whether or not the branch is taken.  An
  exception raised there must say so, and return to the branch in front of it.  Each branch leaves a
  mark for the step behind it, and that step takes the mark with it.

  1. **Instructions that transfer control** (`Cpu.Transfers`) are a list of operations; a branch on
     the condition line of a coprocessor is one of them while the coprocessor may be used.

  2. **Effects** (`isBranch_effect_iff`): the effect of an instruction is a branch, taken or not,
     just if the instruction is one of those and does not branch on a condition that is true.  No
     condition line is ever driven, so that one is never taken, and it has no effect at all: its
     delay slot gets no mark (`mark_lost`).

  3. **The step** (`branched_step_iff`): a step that returns leaves a mark just if it fetched an
     instruction with the effect of a branch.

  4. **The step behind it** (`slot_next`) runs with the mark that was left, and no other; an
     exception in it sets the flag of the cause register and the return address by it.
-/
import PlayStation.Proofs.Cpu.Effects
import PlayStation.Proofs.Cpu.Exceptions
import PlayStation.Proofs.Cpu.Faults
import PlayStation.Proofs.Cpu.Run
import PlayStation.Proofs.Memory.Words

namespace PlayStation

/-! ## Instructions that transfer control -/

/-- The instruction asks a coprocessor whether its condition is true, in order to branch then. -/
def Instruction.BranchesOnTrue (i : Instruction) : Prop :=
  (∃ n, i.operation = .cop n) ∧ i.coprocessorOperation = .bct

/-- The instruction transfers control, taken or not. -/
def Cpu.Transfers (cpu : Cpu) (i : Instruction) : Prop :=
  i.operation.isTransfer = true ∨
  ∃ n, i.operation = .cop n ∧ cpu.system.usable n = true ∧
    (i.coprocessorOperation = .bcf ∨ i.coprocessorOperation = .bct)

/-- The effect is a branch, taken or not. -/
def Effect.isBranch : Effect → Bool
  | .branch _ _ => true
  | _ => false

/-- The action is a branch, taken or not. -/
def Action.isBranch : Action → Bool
  | .branch _ _ => true
  | _ => false

namespace Cpu

/-! ## Which effects are branches -/

/-- **The effect of an instruction** is a branch just if the instruction transfers control, but for
the branch on a true condition. -/
theorem isBranch_effect_iff (cpu : Cpu) (i : Instruction) :
    (cpu.effect i).isBranch = true ↔ cpu.Transfers i ∧ ¬i.BranchesOnTrue := by
  have hmeans := cpu.means_effect i
  unfold Transfers Instruction.BranchesOnTrue
  generalize i.operation = operation at hmeans ⊢
  generalize cpu.effect i = e at hmeans ⊢
  have hnone : operation.isTransfer = false → (∀ n, operation ≠ .cop n) →
      ¬((operation.isTransfer = true ∨ ∃ n, operation = .cop n ∧ cpu.system.usable n = true ∧
          (i.coprocessorOperation = .bcf ∨ i.coprocessorOperation = .bct)) ∧
        ¬((∃ n, operation = .cop n) ∧ i.coprocessorOperation = .bct)) := by
    rintro htransfer hcop ⟨hyes | ⟨n, hn, -⟩, -⟩
    · rw [htransfer] at hyes
      cases hyes
    · exact hcop n hn
  have hlocal : ∀ {e : Effect}, e.isLocal = true → e.isBranch ≠ true := by
    intro e h
    cases e with
    | branch link target => cases h
    | _ => exact nofun
  cases hmeans with
  | plain hplain hinside =>
    obtain ⟨htransfer, hcop⟩ := Operation.of_isPlain hplain
    exact iff_of_false (hlocal hinside) (hnone htransfer hcop)
  | branch htransfer link target =>
    refine iff_of_true rfl ⟨.inl htransfer, ?_⟩
    rintro ⟨⟨n, rfl⟩, -⟩
    cases htransfer
  | load hplain width target =>
    obtain ⟨htransfer, hcop⟩ := Operation.of_isPlain hplain
    exact iff_of_false nofun (hnone htransfer hcop)
  | store hstore hopen width =>
    refine iff_of_false nofun ?_
    simp only [List.mem_cons, List.not_mem_nil, or_false] at hstore
    rcases hstore with rfl | rfl | rfl <;> exact hnone rfl fun _ => nofun
  | storeGeometry husable haligned => exact iff_of_false nofun (hnone rfl fun _ => nofun)
  | @branchOnFalse n husable hbcf target =>
    refine iff_of_true rfl ⟨.inr ⟨n, rfl, husable, .inl hbcf⟩, ?_⟩
    rintro ⟨-, hbct⟩
    rw [hbcf] at hbct
    cases hbct
  | @work n e hother hinside =>
    refine iff_of_false (hlocal hinside) ?_
    rintro ⟨htransfer | ⟨k, hk, husable, hbcf | hbct⟩, hnot⟩
    · cases htransfer
    · cases hk
      exact hother ⟨husable, hbcf⟩
    · exact hnot ⟨⟨n, rfl⟩, hbct⟩

/-! ## The mark behind a step -/

variable {β : Type} [Bus β]

/-- A trap and an access that memory answers are no branches. -/
theorem isBranch_settle {cpu : Cpu} {bus : β} {e : Effect} {a : Action}
    (h : (cpu.settle bus e).1 = .ok a) : a.isBranch = e.isBranch := by
  have hrefusal : ∀ {fault : Fault}, refusal fault = .ok a → a.isBranch = false := by
    intro fault hok
    cases fault <;> cases hok
    rfl
  cases e with
  | load width address target =>
    simp only [settle] at h
    split at h
    · cases h
      cases target <;> rfl
    · exact hrefusal h
  | store width address value =>
    simp only [settle] at h
    split at h
    · cases h
      rfl
    · exact hrefusal h
  | unimplemented => cases h
  | _ =>
    cases h
    rfl

/-- An action leaves a mark just if it is a branch. -/
theorem branched_after (cpu : Cpu) (i : Instruction) (a : Action) :
    (cpu.after i a).branched = a.isBranch := by
  have hready : (cpu.ready i).branched = false := by
    unfold ready redirect
    split <;> rfl
  show ((cpu.ready i).act a).branched = a.isBranch
  cases a with
  | write r value =>
    rw [act, setReg_eq]
    exact hready
  | writeLater r value =>
    rw [act, setRegLater_eq]
    exact hready
  | branch link target => cases target <;> rfl
  | _ => exact hready

/-- The step executes an instruction that transfers control, other than a branch on a true
condition. -/
def Marks (cpu : Cpu) (bus : β) : Prop :=
  ∃ word, cpu.Fetches bus word ∧ cpu.Transfers ⟨word⟩ ∧ ¬Instruction.BranchesOnTrue ⟨word⟩

variable {cpu cpu' : Cpu} {bus bus' : β}

/-- A step that fetches no word, if it returns, has taken a trap. -/
theorem trap_of_not_fetches {i : Instruction} {a : Action} (h : ∀ word, ¬cpu.Fetches bus word)
    (hcourse : cpu.course bus = (.ok (i, a), bus')) : ∃ t, a = .trap t := by
  have hsystem : cpu.begin.system = cpu.system := rfl
  have hpc : cpu.begin.pc = cpu.pc := rfl
  simp only [course, hsystem, hpc] at hcourse
  split at hcourse
  · cases hcourse
    exact ⟨_, rfl⟩
  split at hcourse
  · cases hcourse
    exact ⟨_, rfl⟩
  next hquiet haligned =>
  split at hcourse
  · next word bus'' hload =>
    have hfetches : cpu.Fetches bus word :=
      ⟨eq_false_of_ne_true hquiet, by simpa using haligned, congrArg Prod.fst hload⟩
    exact absurd hfetches (h word)
  · cases hcourse
    exact ⟨_, rfl⟩
  · cases hcourse

/-- **A step that returns** leaves a mark just if it executed such an instruction. -/
theorem branched_step_iff (hstep : cpu.step bus = .done (cpu', bus')) :
    cpu'.branched = true ↔ cpu.Marks bus := by
  obtain ⟨i, a, hcourse, rfl⟩ := course_of_step hstep
  rw [branched_after]
  by_cases hfetches : ∃ word, cpu.Fetches bus word
  · obtain ⟨word, hword⟩ := hfetches
    have hsettled : ((cpu.fetched ⟨word⟩).settle (Bus.load .word cpu.pc bus).2
        ((cpu.fetched ⟨word⟩).effect ⟨word⟩)).1 = .ok a := by
      have hanswer := course_of_fetches hword
      rw [hcourse] at hanswer
      revert hanswer
      cases ((cpu.fetched ⟨word⟩).settle (Bus.load .word cpu.pc bus).2
          ((cpu.fetched ⟨word⟩).effect ⟨word⟩)).1 with
      | ok action =>
        intro hanswer
        cases hanswer
        rfl
      | error fault => exact nofun
    have heffect : a.isBranch = true ↔
        cpu.Transfers ⟨word⟩ ∧ ¬Instruction.BranchesOnTrue ⟨word⟩ := by
      rw [isBranch_settle hsettled]
      exact isBranch_effect_iff (cpu.fetched ⟨word⟩) ⟨word⟩
    rw [heffect]
    constructor
    · rintro ⟨htransfers, hnot⟩
      exact ⟨word, hword, htransfers, hnot⟩
    · -- the bus has one answer
      rintro ⟨other, hother, htransfers, hnot⟩
      obtain rfl : word = other := Except.ok.inj (hword.answer.symm.trans hother.answer)
      exact ⟨htransfers, hnot⟩
  · obtain ⟨t, rfl⟩ := trap_of_not_fetches (not_exists.1 hfetches) hcourse
    refine iff_of_false nofun ?_
    rintro ⟨word, hword, -⟩
    exact hfetches ⟨word, hword⟩

/-! ## The step behind it -/

theorem stamp_perform (cpu : Cpu) (bus : β) (e : Effect) :
    (cpu.perform bus e).state.1.stamp = cpu.stamp := by
  rw [perform_eq_settle]
  rcases cpu.settle bus e with ⟨fault | a, bus'⟩
  · rfl
  · exact stamp_act cpu a

theorem stamp_fetchAndPerform (cpu : Cpu) (bus : β) :
    (cpu.fetchAndPerform bus).state.1.stamp = cpu.stamp := by
  have hredirect : ∀ i : Instruction,
      ({ cpu with instruction := i }).redirect.stamp = cpu.stamp := by
    intro i
    unfold redirect
    split <;> rfl
  unfold fetchAndPerform
  split
  · rfl
  split
  · next word bus' hload => exact (stamp_perform _ _ _).trans (hredirect ⟨word⟩)
  · rfl
  · rfl

/-- **A step runs at the address and with the mark** that it finds, whether it returns or stops. -/
theorem stamp_step (cpu : Cpu) (bus : β) :
    (cpu.step bus).state.1.stamp = (cpu.pc, cpu.branched) := by
  unfold step
  dsimp only
  generalize hworked : (if cpu.begin.system.interruptPending = true then
    Outcome.done (cpu.begin.raise .interrupt, bus) else cpu.begin.fetchAndPerform bus) = worked
  have hsame : worked.state.1.stamp = cpu.begin.stamp := by
    rw [← hworked]
    split
    · rfl
    · exact stamp_fetchAndPerform cpu.begin bus
  rcases worked with ⟨⟨cpu', bus'⟩, _ | fault⟩
  · exact hsame
  · exact hsame

theorem currentPc_step (cpu : Cpu) (bus : β) : (cpu.step bus).state.1.currentPc = cpu.pc :=
  congrArg Prod.fst (stamp_step cpu bus)

theorem inDelaySlot_step (cpu : Cpu) (bus : β) :
    (cpu.step bus).state.1.inDelaySlot = cpu.branched :=
  congrArg Prod.snd (stamp_step cpu bus)

/-- **The mark is exact.**  Behind a step that returns, whatever becomes of the bus and of the
interrupt line, the next step runs in a delay slot just if the first one executed an instruction
that transfers control, other than a branch on a true condition.  An exception in it says so, and
returns to the instruction in front of it then, and else to its own. -/
theorem slot_next (hstep : cpu.step bus = .done (cpu', bus')) (line : Option Bool) (next : β) :
    let slot := (stepper β).drive cpu' line
    ((slot.step next).state.1.inDelaySlot = true ↔ cpu.Marks bus) ∧
    ∀ i t next', slot.course next = (.ok (i, .trap t), next') →
      ∃ raised, slot.step next = .done (raised, next') ∧ Entered t slot raised ∧
        (cpu.Marks bus → raised.system.branchDelay = true ∧ raised.system.epc = cpu'.pc - 4) ∧
        (¬cpu.Marks bus → raised.system.branchDelay = false ∧ raised.system.epc = cpu'.pc) := by
  intro slot
  have hmark := branched_step_iff hstep
  have hbranched : slot.branched = cpu'.branched := by
    cases line <;> rfl
  have hpc : slot.pc = cpu'.pc := by
    cases line <;> rfl
  constructor
  · rw [inDelaySlot_step, hbranched]
    exact hmark
  · intro i t next' hcourse
    have hentered := entered_after slot i t
    refine ⟨slot.after i (.trap t), step_of_course hcourse, hentered, ?_, ?_⟩
    · intro hmarks
      rw [hentered.branchDelay, hentered.epc, hbranched, hmark.2 hmarks, if_pos rfl, hpc]
      exact ⟨rfl, rfl⟩
    · intro hmarks
      have hunmarked : cpu'.branched = false := eq_false_of_ne_true fun h => hmarks (hmark.1 h)
      rw [hentered.branchDelay, hentered.epc, hbranched, hunmarked, if_neg Bool.false_ne_true, hpc]
      exact ⟨rfl, rfl⟩

/-! ## A system call in a delay slot -/

/-- Two instructions in RAM: the given one, and a system call behind it. -/
def callBehind (word : UInt32) : Memory :=
  (Memory.blank.setRamWord 0x80010000 word).setRamWord 0x80010004 0x0000000C

/-- The processor in front of them. -/
def atCall : Cpu := { reset with pc := 0x80010000 }

theorem fetches_callBehind (word : UInt32) : atCall.Fetches (callBehind word) word := by
  have hword : (callBehind word).ramWord 0x80010000 = word := by
    rw [callBehind, Memory.ramWord_setRamWord_of_ne _ (by decide),
      Memory.ramWord_setRamWord_self]
  have hfetches : atCall.Fetches (callBehind word) ((callBehind word).ramWord 0x80010000) :=
    fetches_ram (by decide) (by decide) (by decide)
  rwa [hword] at hfetches

/-- The step behind the first instruction finds the system call. -/
theorem course_call {word : UInt32} {cpu : Cpu} (hpc : cpu.pc = 0x80010004)
    (hquiet : cpu.system.interruptPending = false) :
    cpu.course (callBehind word) =
      (.ok (⟨0x0000000C⟩, .trap { cause := .syscall }), callBehind word) := by
  have hword : (callBehind word).ramWord cpu.pc = 0x0000000C := by
    rw [hpc, callBehind, Memory.ramWord_setRamWord_self]
  exact course_ram hquiet (by rw [hpc]; decide) (by rw [hpc]; decide) hword rfl

/-- Behind a branch that is not taken, register 8 being zero, the call returns to the branch. -/
theorem slot_next_untaken : ∃ cpu' raised,
    atCall.step (callBehind 0x15000003) = .done (cpu', callBehind 0x15000003) ∧
    cpu'.step (callBehind 0x15000003) = .done (raised, callBehind 0x15000003) ∧
    raised.inDelaySlot = true ∧ raised.system.branchDelay = true ∧
    raised.system.epc = 0x80010000 := by
  have hstep : atCall.step (callBehind 0x15000003) =
      .done (atCall.after ⟨0x15000003⟩ (.branch none none), callBehind 0x15000003) := by
    have heffect : (atCall.fetched ⟨0x15000003⟩).effect ⟨0x15000003⟩ = .branch none none := by
      decide
    apply step_of_course
    apply course_of_settled (fetches_callBehind _)
    rw [heffect]
    rfl
  have hmarks : atCall.Marks (callBehind 0x15000003) := by
    refine ⟨_, fetches_callBehind _, .inl (by decide), ?_⟩
    rintro ⟨⟨n, hn⟩, -⟩
    cases hn
  obtain ⟨hslot, hraised⟩ := slot_next hstep none (callBehind 0x15000003)
  obtain ⟨raised, hnext, -, hset, -⟩ :=
    hraised _ _ _ (course_call (by decide) (by decide))
  refine ⟨_, raised, hstep, hnext, ?_, (hset hmarks).1, ?_⟩
  · have hstate := congrArg (fun outcome => outcome.state.1.inDelaySlot) hnext
    exact hstate.symm.trans (hslot.2 hmarks)
  · rw [(hset hmarks).2]
    decide

/-- **A branch on a true condition loses the mark.**  It transfers control, being on a coprocessor
that may be used; the call behind it sits in its delay slot, and yet it neither says so nor returns
to the branch. -/
theorem mark_lost : ∃ cpu' raised,
    atCall.Transfers ⟨0x41010003⟩ ∧ atCall.Fetches (callBehind 0x41010003) 0x41010003 ∧
    atCall.step (callBehind 0x41010003) = .done (cpu', callBehind 0x41010003) ∧
    cpu'.step (callBehind 0x41010003) = .done (raised, callBehind 0x41010003) ∧
    raised.system.exceptionCode = ExceptionCause.syscall.code ∧
    raised.inDelaySlot = false ∧ raised.system.branchDelay = false ∧
    raised.system.epc = 0x80010004 := by
  have hstep : atCall.step (callBehind 0x41010003) =
      .done (atCall.after ⟨0x41010003⟩ .nothing, callBehind 0x41010003) := by
    have heffect : (atCall.fetched ⟨0x41010003⟩).effect ⟨0x41010003⟩ = .nothing := by
      decide
    apply step_of_course
    apply course_of_settled (fetches_callBehind _)
    rw [heffect]
    rfl
  have hcall : (atCall.after ⟨0x41010003⟩ .nothing).course (callBehind 0x41010003) =
      (.ok (⟨0x0000000C⟩, .trap { cause := .syscall }), callBehind 0x41010003) :=
    course_call (by decide) (by decide)
  have hnext := step_of_course hcall
  have htransfers : atCall.Transfers ⟨0x41010003⟩ :=
    .inr ⟨.zero, by decide, by decide, .inr (by decide)⟩
  exact ⟨_, _, htransfers, fetches_callBehind _, hstep, hnext, by decide, by decide, by decide,
    by decide⟩

end Cpu

end PlayStation

/-
  How a step can STOP.

  A fault stops a step for one of two reasons: the bus refuses an access in a way that is not
  vectored, or the instruction is one that is not executed.  The first does not happen on a bus that
  is `Obliging`: the processor makes no access in spite of its alignment, and an address where
  nothing lies is an exception.  What is left are four instructions and the commands of coprocessor
  2 (`Cpu.Unexecuted`), and they do stop a step that fetches them (`fault_step_iff`).

  Then nothing has been done but the fetch: the processor has aged its delay slots and taken up a
  branch target, and no more (`step_of_unexecuted`).
-/
import PlayStation.Proofs.Cpu.ExceptionTable
import PlayStation.Proofs.Memory.Words

namespace PlayStation

/-- A bus that refuses no aligned access but for want of something at its address. -/
structure Obliging (β : Type) [Bus β] : Prop where
  load : ∀ {width : AccessWidth} {address : UInt32} {bus : β} {fault : Fault},
    width.isAligned address = true → (Bus.load width address bus).1 = .error fault →
      fault = .unmapped address
  store : ∀ {width : AccessWidth} {address value : UInt32} {bus : β} {fault : Fault},
    width.isAligned address = true → (Bus.store width address value bus).fault = some fault →
      fault = .unmapped address

namespace Cpu

/-! ## Instructions that are not executed -/

/-- The instruction is an access to part of a word, or a command of coprocessor 2 while that may be
used. -/
def Unexecuted (cpu : Cpu) (i : Instruction) : Prop :=
  i.operation ∈ [.lwl, .lwr, .swl, .swr] ∨
  (i.operation = .cop .two ∧ Word.bit cpu.system.status 30 = true ∧
    ∃ immediate, i.coprocessorOperation = .command immediate)

section Effects

variable {width : AccessWidth} {cause : ExceptionCause} {address : UInt32} {access : Effect}

theorem executed_writeOrTrap (r : Reg) (result : Option UInt32) :
    writeOrTrap r result ≠ .unimplemented := by
  cases result <;> exact nofun

theorem executed_aligned (h : access ≠ .unimplemented) :
    aligned width cause address access ≠ .unimplemented := by
  unfold aligned
  split
  · exact h
  · exact nofun

variable (cpu : Cpu) (i : Instruction)

theorem executed_loadRegister (widening : Widening) :
    cpu.loadRegister i width widening ≠ .unimplemented := executed_aligned nofun

theorem executed_storeRegister : cpu.storeRegister i width ≠ .unimplemented := by
  refine executed_aligned ?_
  split <;> exact nofun

theorem executed_loadCoprocessor (n : Coprocessor) :
    cpu.loadCoprocessor i n ≠ .unimplemented := by
  unfold loadCoprocessor
  split
  · exact nofun
  · exact executed_aligned nofun

theorem executed_storeCoprocessor (n : Coprocessor) :
    cpu.storeCoprocessor i n ≠ .unimplemented := by
  unfold storeCoprocessor
  split
  · exact nofun
  · exact executed_aligned nofun

theorem executed_systemEffect : cpu.systemEffect i ≠ .unimplemented := by
  unfold systemEffect systemCommand
  repeat' split
  all_goals exact nofun

theorem geometryEffect_eq_iff : cpu.geometryEffect i = .unimplemented ↔
    ∃ immediate, i.coprocessorOperation = .command immediate := by
  unfold geometryEffect
  cases i.coprocessorOperation with
  | command immediate => exact ⟨fun _ => ⟨immediate, rfl⟩, fun _ => rfl⟩
  | _ => exact ⟨nofun, nofun⟩

/-- Of the coprocessors, the second one has work that is not executed. -/
theorem coprocessorEffect_eq_iff (n : Coprocessor) :
    cpu.coprocessorEffect i n = .unimplemented ↔
      n = .two ∧ Word.bit cpu.system.status 30 = true ∧
        ∃ immediate, i.coprocessorOperation = .command immediate := by
  unfold coprocessorEffect
  cases n with
  | zero =>
    constructor
    · intro h
      split at h
      · exact absurd h (cpu.executed_systemEffect i)
      · cases h
    · rintro ⟨h, -⟩
      cases h
  | two =>
    have husable : cpu.system.usable .two = Word.bit cpu.system.status 30 := rfl
    have htwo : Coprocessor.two ≠ .zero := by decide
    rw [husable, if_neg htwo]
    by_cases hbit : Word.bit cpu.system.status 30 = true
    · rw [if_pos hbit, geometryEffect_eq_iff]
      exact ⟨fun h => ⟨rfl, hbit, h⟩, fun h => h.2.2⟩
    · rw [if_neg hbit]
      exact ⟨nofun, fun h => absurd h.2.1 hbit⟩
  | one => exact ⟨nofun, nofun⟩
  | three => exact ⟨nofun, nofun⟩

/-- **Every instruction** but those is executed. -/
theorem effect_eq_unimplemented_iff : cpu.effect i = .unimplemented ↔ cpu.Unexecuted i := by
  have hexecuted : ∀ {operation : Operation} {e : Effect} {P : Prop}, e ≠ .unimplemented →
      operation ∉ [.lwl, .lwr, .swl, .swr] → operation ≠ .cop .two →
      (e = .unimplemented ↔
        operation ∈ [.lwl, .lwr, .swl, .swr] ∨ (operation = .cop .two ∧ P)) :=
    fun he hpart hcop => iff_of_false he fun h => h.elim hpart fun hboth => hcop hboth.1
  unfold effect Unexecuted
  cases i.operation with
  | lwl => exact iff_of_true rfl (.inl (by decide))
  | lwr => exact iff_of_true rfl (.inl (by decide))
  | swl => exact iff_of_true rfl (.inl (by decide))
  | swr => exact iff_of_true rfl (.inl (by decide))
  | cop n =>
    have hpart : Operation.cop n ∉ [.lwl, .lwr, .swl, .swr] := by
      cases n <;> decide
    simp only [coprocessorEffect_eq_iff, hpart, false_or, Operation.cop.injEq]
  | add => exact hexecuted (executed_writeOrTrap _ _) (by decide) (by decide)
  | addi => exact hexecuted (executed_writeOrTrap _ _) (by decide) (by decide)
  | sub => exact hexecuted (executed_writeOrTrap _ _) (by decide) (by decide)
  | lb => exact hexecuted (cpu.executed_loadRegister i _) (by decide) (by decide)
  | lbu => exact hexecuted (cpu.executed_loadRegister i _) (by decide) (by decide)
  | lh => exact hexecuted (cpu.executed_loadRegister i _) (by decide) (by decide)
  | lhu => exact hexecuted (cpu.executed_loadRegister i _) (by decide) (by decide)
  | lw => exact hexecuted (cpu.executed_loadRegister i _) (by decide) (by decide)
  | sb => exact hexecuted (cpu.executed_storeRegister i) (by decide) (by decide)
  | sh => exact hexecuted (cpu.executed_storeRegister i) (by decide) (by decide)
  | sw => exact hexecuted (cpu.executed_storeRegister i) (by decide) (by decide)
  | lwc n => exact hexecuted (cpu.executed_loadCoprocessor i n) (by cases n <;> decide) nofun
  | swc n => exact hexecuted (cpu.executed_storeCoprocessor i n) (by cases n <;> decide) nofun
  | _ => exact hexecuted nofun (by decide) (by decide)

end Effects

/-! ## Steps that stop -/

variable {β : Type} [Bus β]

/-- A step fetches a word: no interrupt comes in between, and the bus answers. -/
structure Fetches (cpu : Cpu) (bus : β) (word : UInt32) : Prop where
  quiet : cpu.system.interruptPending = false
  aligned : AccessWidth.word.isAligned cpu.pc = true
  answer : (Bus.load .word cpu.pc bus).1 = .ok word

variable {cpu : Cpu} {bus : β} {fault : Fault} {word : UInt32}

/-- What the step finds when it gets to the fetch. -/
theorem Fetches.fetching (h : cpu.Fetches bus word) :
    cpu.begin.system.interruptPending = false ∧
    (!AccessWidth.word.isAligned cpu.begin.pc) = false ∧
    Bus.load .word cpu.begin.pc bus = (.ok word, (Bus.load .word cpu.pc bus).2) :=
  ⟨h.quiet, congrArg not h.aligned, Prod.ext h.answer rfl⟩

/-- The course of a step that fetches a word. -/
theorem course_of_fetches (h : cpu.Fetches bus word) :
    (cpu.course bus).1 =
      ((cpu.fetched ⟨word⟩).settle (Bus.load .word cpu.pc bus).2
        ((cpu.fetched ⟨word⟩).effect ⟨word⟩)).1.map fun action => (⟨word⟩, action) := by
  obtain ⟨hquiet, haligned, hanswer⟩ := h.fetching
  simp only [course, hquiet, haligned, hanswer, Bool.false_eq_true, if_false]

/-- The course of a step that fetches a word whose effect settles to an action. -/
theorem course_of_settled {bus' : β} {a : Action} (h : cpu.Fetches bus word)
    (hsettle : (cpu.fetched ⟨word⟩).settle (Bus.load .word cpu.pc bus).2
      ((cpu.fetched ⟨word⟩).effect ⟨word⟩) = (.ok a, bus')) :
    cpu.course bus = (.ok (⟨word⟩, a), bus') := by
  obtain ⟨hquiet, haligned, hanswer⟩ := h.fetching
  simp only [course, hquiet, haligned, hanswer, Bool.false_eq_true, if_false, hsettle]
  rfl

/-- A step in memory with its program counter in RAM fetches the word there. -/
theorem fetches_ram {m : Memory} (hquiet : cpu.system.interruptPending = false)
    (haligned : AccessWidth.word.isAligned cpu.pc = true)
    (hram : Region.of (physical cpu.pc) = .ram) : cpu.Fetches m (m.ramWord cpu.pc) where
  quiet := hquiet
  aligned := haligned
  answer := m.read_word_ram haligned hram

/-- The course of such a step is what the word there settles to. -/
theorem course_ram {m m' : Memory} {a : Action} (hquiet : cpu.system.interruptPending = false)
    (haligned : AccessWidth.word.isAligned cpu.pc = true)
    (hram : Region.of (physical cpu.pc) = .ram) (hword : m.ramWord cpu.pc = word)
    (hsettle : (cpu.fetched ⟨word⟩).settle m ((cpu.fetched ⟨word⟩).effect ⟨word⟩) = (.ok a, m')) :
    cpu.course m = (.ok (⟨word⟩, a), m') :=
  course_of_settled (hword ▸ fetches_ram hquiet haligned hram) hsettle

/-- On an obliging bus, an effect settles to a fault just if it is not executed. -/
theorem settle_error_iff (hbus : Obliging β) {e : Effect} (haligned : e.Aligned) :
    (cpu.settle bus e).1 = .error fault ↔
      e = .unimplemented ∧ fault = .unimplemented cpu.instruction.word cpu.currentPc := by
  have hdone : ∀ a : Action, (Except.ok a : Except Fault Action) ≠ .error fault := by
    intro a h
    cases h
  have hexecuted : ∀ {e : Effect}, e ≠ .unimplemented →
      ¬(e = .unimplemented ∧ fault = .unimplemented cpu.instruction.word cpu.currentPc) :=
    fun hne h => hne h.1
  cases e with
  | load width address target =>
    refine iff_of_false ?_ (hexecuted Effect.noConfusion)
    rcases h : Bus.load width address bus with ⟨refusal | value, bus'⟩
    · obtain rfl := hbus.load haligned (congrArg Prod.fst h)
      simp only [settle, h]
      exact hdone _
    · simp only [settle, h]
      exact hdone _
  | store width address value =>
    refine iff_of_false ?_ (hexecuted Effect.noConfusion)
    rcases h : Bus.store width address (value &&& width.mask) bus with ⟨bus', _ | refusal⟩
    · simp only [settle, h]
      exact hdone _
    · obtain rfl := hbus.store haligned (congrArg Outcome.fault h)
      simp only [settle, h]
      exact hdone _
  | unimplemented =>
    show Except.error _ = Except.error fault ↔ _
    rw [Except.error.injEq, eq_comm, eq_self, true_and]
  | _ => exact iff_of_false (hdone _) (hexecuted Effect.noConfusion)

/-- A step that does not fetch a word has a trap for its course. -/
theorem course_of_not_fetches (hbus : Obliging β) (h : ∀ word, ¬cpu.Fetches bus word) :
    (cpu.course bus).1 ≠ .error fault := by
  have hsystem : cpu.begin.system = cpu.system := rfl
  have hpc : cpu.begin.pc = cpu.pc := rfl
  have htraps : ∀ answer : Instruction × Action,
      (Except.ok answer : Except Fault (Instruction × Action)) ≠ .error fault := by
    intro answer h
    cases h
  simp only [course, hsystem, hpc]
  by_cases hinterrupt : cpu.system.interruptPending = true
  · rw [if_pos hinterrupt]
    exact htraps _
  by_cases hmisaligned : (!AccessWidth.word.isAligned cpu.pc) = true
  · rw [if_neg hinterrupt, if_pos hmisaligned]
    exact htraps _
  rw [if_neg hinterrupt, if_neg hmisaligned]
  have haligned : AccessWidth.word.isAligned cpu.pc = true :=
    Bool.not_eq_false' .. ▸ eq_false_of_ne_true hmisaligned
  rcases hload : Bus.load .word cpu.pc bus with ⟨refusal | word, bus'⟩
  · obtain rfl := hbus.load haligned (congrArg Prod.fst hload)
    exact htraps _
  · exact absurd ⟨eq_false_of_ne_true hinterrupt, haligned, congrArg Prod.fst hload⟩ (h word)

/-- A step that fetches a word stops just if the word is not executed. -/
theorem course_error_of_fetches (hbus : Obliging β) (h : cpu.Fetches bus word) :
    (cpu.course bus).1 = .error fault ↔
      cpu.Unexecuted ⟨word⟩ ∧ fault = .unimplemented word cpu.pc := by
  have haligned := aligned_effect (cpu.fetched ⟨word⟩) ⟨word⟩
  have hsame : cpu.Unexecuted ⟨word⟩ ↔ (cpu.fetched ⟨word⟩).effect ⟨word⟩ = .unimplemented :=
    (effect_eq_unimplemented_iff (cpu.fetched ⟨word⟩) ⟨word⟩).symm
  have hsettle : ((cpu.fetched ⟨word⟩).settle (Bus.load .word cpu.pc bus).2
        ((cpu.fetched ⟨word⟩).effect ⟨word⟩)).1 = .error fault ↔
      (cpu.fetched ⟨word⟩).effect ⟨word⟩ = .unimplemented ∧ fault = .unimplemented word cpu.pc :=
    settle_error_iff hbus haligned
  rw [course_of_fetches h, hsame]
  refine Iff.trans ?_ hsettle
  cases ((cpu.fetched ⟨word⟩).settle (Bus.load .word cpu.pc bus).2
    ((cpu.fetched ⟨word⟩).effect ⟨word⟩)).1 with
  | ok action => exact iff_of_false nofun nofun
  | error refusal =>
    show Except.error refusal = Except.error fault ↔ Except.error refusal = Except.error fault
    rw [Except.error.injEq, Except.error.injEq]

/-- **The one way to stop** on an obliging bus: to fetch a word that is not executed. -/
theorem fault_step_iff (hbus : Obliging β) : (cpu.step bus).fault = some fault ↔
    ∃ word, cpu.Fetches bus word ∧ cpu.Unexecuted ⟨word⟩ ∧
      fault = .unimplemented word cpu.pc := by
  have hcourse : (cpu.step bus).fault = some fault ↔ (cpu.course bus).1 = .error fault := by
    rcases step_cases cpu bus with ⟨i, a, bus', hc, hstep⟩ | ⟨fault', bus', s, hc, hstep⟩
    · rw [hc, hstep]
      exact ⟨nofun, nofun⟩
    · rw [hc, hstep]
      show some fault' = some fault ↔ Except.error fault' = Except.error fault
      rw [Option.some.injEq, Except.error.injEq]
  rw [hcourse]
  constructor
  · intro hfault
    by_cases hfetches : ∃ word, cpu.Fetches bus word
    · obtain ⟨word, h⟩ := hfetches
      exact ⟨word, h, (course_error_of_fetches hbus h).1 hfault⟩
    · exact absurd hfault (course_of_not_fetches hbus (not_exists.1 hfetches))
  · rintro ⟨word, h, hunexecuted⟩
    exact (course_error_of_fetches hbus h).2 hunexecuted

/-- **A word that is not executed** stops the step that fetches it, whatever the bus; nothing has
been done then but the fetch. -/
theorem step_of_unexecuted (h : cpu.Fetches bus word) (hword : cpu.Unexecuted ⟨word⟩) :
    cpu.step bus = .stopped (.unimplemented word cpu.pc)
      (cpu.ready ⟨word⟩, (Bus.load .word cpu.pc bus).2) := by
  obtain ⟨hquiet, haligned, hanswer⟩ := h.fetching
  have heffect : (cpu.fetched ⟨word⟩).effect ⟨word⟩ = .unimplemented :=
    (effect_eq_unimplemented_iff (cpu.fetched ⟨word⟩) ⟨word⟩).2 hword
  have hready := cpu.perform_ready ⟨word⟩ (Bus.load .word cpu.pc bus).2
  rw [heffect] at hready
  simp only [step, fetchAndPerform, hquiet, haligned, hanswer, Bool.false_eq_true, if_false,
    ← fetched.eq_1, ← ready.eq_1, hready]
  rfl

end Cpu

end PlayStation

/-
  WHICH EXCEPTION a step raises: the table of the architecture.

  `Cpu.exception?` goes through the causes in the order in which they are found out:

    an interrupt that is enabled and pending;
    a program counter that is no multiple of four, or one at which nothing lies;
    what the fetched instruction raises (`Cpu.instructionException?`):
      a result that does not fit 32 bits, an address that is no multiple of the width, an access
      to a place where nothing lies, a coprocessor that is not usable, and words that are no
      instructions.

  The table is told without the way in which instructions are carried out: overflow is about exact
  sums, alignment about division.

  1. **The instruction** (`trap?_effect`): the trap that its effect comes to in memory is the one of
     the table.  This is the case split over the instruction set.

  2. **The step** (`course_memory`): the course of a step is a trap exactly when the table says so,
     and it is that trap.

  3. **The particulars** (`proper_of_exception?`): no trap of the table names an address or a
     coprocessor that does not belong to its cause.
-/
import PlayStation.Proofs.Cpu.Course
import PlayStation.Proofs.Cpu.SignedArithmetic
import PlayStation.Proofs.Memory.Access

namespace PlayStation

open Memory (vacant)

/-- The particulars of a trap belong to its cause: an address to an address error, a coprocessor to
one that could not be used. -/
structure Trap.Proper (t : Trap) : Prop where
  badAddress : t.badAddress.isSome ↔ t.cause = .addressErrorLoad ∨ t.cause = .addressErrorStore
  coprocessor : t.coprocessor.isSome ↔ t.cause = .coprocessorUnusable

namespace Cpu

/-! ## The table -/

/-- An exact result that may not fit. -/
def overflow? (z : Int) : Option Trap :=
  if Representable z then none else some { cause := .overflow }

/-- An access to memory; one that `reaches` no memory finds nothing missing there. -/
def access? (width : AccessWidth) (misaligned : ExceptionCause) (address : UInt32)
    (reaches : Bool) : Option Trap :=
  if address.toNat % width.bytes ≠ 0 then some { cause := misaligned, badAddress := some address }
  else if reaches && vacant address then some { cause := .busErrorData }
  else none

/-- A coprocessor that must not be used. -/
def unusable? (n : Coprocessor) : Option Trap :=
  some { cause := .coprocessorUnusable, coprocessor := some n }

variable (cpu : Cpu) (i : Instruction)

/-- A load into a general register. -/
def load? (width : AccessWidth) : Option Trap :=
  access? width .addressErrorLoad (cpu.effectiveAddress i) true

/-- A store from a general register. -/
def store? (width : AccessWidth) : Option Trap :=
  access? width .addressErrorStore (cpu.effectiveAddress i) !cpu.system.cacheIsolated

/-- A word moved between memory and coprocessor `n`; only coprocessor 2 has a path to memory. -/
def transfer? (n : Coprocessor) (misaligned : ExceptionCause) : Option Trap :=
  if n = .two ∧ cpu.system.usable n then access? .word misaligned (cpu.effectiveAddress i) true
  else unusable? n

/-- Work of coprocessor `n`.  Coprocessor 0 has no control registers and five commands. -/
def work? (n : Coprocessor) : Option Trap :=
  if cpu.system.usable n then
    match n, i.coprocessorOperation with
    | _, .reserved | .zero, .cfc | .zero, .ctc => some { cause := .reservedInstruction }
    | .zero, .command immediate =>
      if (immediate &&& 0x3F).toNat ∈ [0x01, 0x02, 0x06, 0x08, 0x10] then none
      else some { cause := .reservedInstruction }
    | _, _ => none
  else unusable? n

/-- What an instruction raises. -/
def instructionException? : Option Trap :=
  match i.operation with
  | .syscall => some { cause := .syscall }
  | .break => some { cause := .breakpoint }
  | .reserved => some { cause := .reservedInstruction }
  | .add => overflow? (signedValue (cpu.rs i) + signedValue (cpu.rt i))
  | .sub => overflow? (signedValue (cpu.rs i) - signedValue (cpu.rt i))
  | .addi => overflow? (signedValue (cpu.rs i) + signedValue i.immSigned)
  | .lb | .lbu => cpu.load? i .byte
  | .lh | .lhu => cpu.load? i .half
  | .lw => cpu.load? i .word
  | .sb => cpu.store? i .byte
  | .sh => cpu.store? i .half
  | .sw => cpu.store? i .word
  | .cop n => cpu.work? i n
  | .lwc n => cpu.transfer? i n .addressErrorLoad
  | .swc n => cpu.transfer? i n .addressErrorStore
  | _ => none

/-- What a step raises. -/
def exception? (m : Memory) : Option Trap :=
  if cpu.system.interruptPending then some { cause := .interrupt }
  else if cpu.pc.toNat % 4 ≠ 0 then some { cause := .addressErrorLoad, badAddress := some cpu.pc }
  else
    match m.read .word cpu.pc with
    | .ok word => cpu.instructionException? ⟨word⟩
    | .error _ => some { cause := .busErrorInstruction }

end Cpu

/-! ## One instruction -/

/-- The trap that an effect comes to in memory. -/
def Effect.trap? : Effect → Option Trap
  | .load _ address _ | .store _ address _ =>
    if vacant address then some { cause := .busErrorData } else none
  | .raise t => some t
  | _ => none

/-- The access of an effect, if it is one, is aligned. -/
def Effect.Aligned : Effect → Prop
  | .load width address _ | .store width address _ => width.isAligned address = true
  | _ => True

namespace Cpu

variable {width : AccessWidth} {cause : ExceptionCause} {address : UInt32} {access : Effect}

/-- A result that is missing exactly when it does not fit raises an overflow exactly then. -/
theorem trap?_writeOrTrap (r : Reg) {result : Option UInt32} {z : Int}
    (h : result = none ↔ ¬Representable z) : (writeOrTrap r result).trap? = overflow? z := by
  rw [overflow?]
  cases result with
  | none =>
    rw [if_neg (h.1 rfl)]
    rfl
  | some value =>
    rw [if_pos (Decidable.not_not.1 fun hno => nomatch h.2 hno)]
    rfl

/-- An access behind the check of its address raises what the table says. -/
theorem trap?_aligned {reaches : Bool} (haccess : access.trap? =
      if reaches && vacant address then some { cause := .busErrorData } else none) :
    (aligned width cause address access).trap? = access? width cause address reaches := by
  rw [aligned, access?, AccessWidth.isAligned_eq]
  by_cases h : address.toNat % width.bytes = 0
  · rw [if_pos (decide_eq_true h), if_neg (not_not_intro h), haccess]
  · rw [if_neg (ne_true_of_eq_false (decide_eq_false h)), if_pos h]
    rfl

theorem aligned_aligned (h : width.isAligned address = true → access.Aligned) :
    (aligned width cause address access).Aligned := by
  by_cases haligned : width.isAligned address = true
  · rw [aligned, if_pos haligned]
    exact h haligned
  · rw [aligned, if_neg haligned]
    trivial

variable (cpu : Cpu) (i : Instruction)

theorem trap?_loadRegister (widening : Widening) :
    (cpu.loadRegister i width widening).trap? = cpu.load? i width :=
  trap?_aligned (by rw [Bool.true_and]; rfl)

theorem trap?_storeRegister : (cpu.storeRegister i width).trap? = cpu.store? i width := by
  refine trap?_aligned ?_
  cases cpu.system.cacheIsolated <;> rfl

/-- A word moved between memory and a coprocessor raises what the table says. -/
theorem trap?_transfer (n : Coprocessor) (haccess : access.trap? =
      if vacant (cpu.effectiveAddress i) then some { cause := .busErrorData } else none) :
    (if n ≠ .two || !cpu.system.usable n then unusable n
      else aligned .word cause (cpu.effectiveAddress i) access).trap? =
        cpu.transfer? i n cause := by
  have hrefused : (decide (n ≠ .two) || !cpu.system.usable n) = true ↔
      ¬(n = .two ∧ cpu.system.usable n = true) := by
    rw [Bool.or_eq_true, decide_eq_true_iff, Bool.not_eq_true', Decidable.not_and_iff_or_not,
      Bool.not_eq_true]
  rw [transfer?]
  by_cases h : n = .two ∧ cpu.system.usable n = true
  · rw [if_pos h, if_neg (fun hyes => hrefused.1 hyes h)]
    exact trap?_aligned (haccess.trans (by rw [Bool.true_and]))
  · rw [if_neg h, if_pos (hrefused.2 h)]
    rfl

theorem trap?_systemCommand (immediate : UInt32) :
    (systemCommand immediate).trap? =
      if (immediate &&& 0x3F).toNat ∈ [0x01, 0x02, 0x06, 0x08, 0x10] then none
      else some { cause := .reservedInstruction } := by
  rw [systemCommand]
  generalize (immediate &&& 0x3F).toNat = command
  split
  · rfl
  · rfl
  · rfl
  · rfl
  · rfl
  · next h₁ h₂ h₃ h₄ h₅ =>
    have hother : command ∉ [0x01, 0x02, 0x06, 0x08, 0x10] := by
      simp only [List.mem_cons, List.not_mem_nil, or_false]
      rintro (h | h | h | h | h)
      · exact h₂ h
      · exact h₃ h
      · exact h₄ h
      · exact h₅ h
      · exact h₁ h
    rw [if_neg hother]
    rfl

theorem trap?_coprocessorEffect (n : Coprocessor) :
    (cpu.coprocessorEffect i n).trap? = cpu.work? i n := by
  unfold coprocessorEffect work?
  by_cases husable : cpu.system.usable n = true
  · rw [if_pos husable, if_pos husable]
    cases n with
    | zero =>
      rw [if_pos rfl]
      unfold systemEffect
      cases i.coprocessorOperation with
      | command immediate => exact trap?_systemCommand immediate
      | _ => rfl
    | two =>
      rw [if_neg (by decide)]
      unfold geometryEffect
      cases i.coprocessorOperation <;> rfl
    | one => cases husable
    | three => cases husable
  · rw [if_neg husable, if_neg husable]
    rfl

/-- **The trap of an instruction** is the one of the table. -/
theorem trap?_effect : (cpu.effect i).trap? = cpu.instructionException? i := by
  unfold effect instructionException?
  cases i.operation with
  | add => exact trap?_writeOrTrap _ (add?_eq_none_iff _ _)
  | addi => exact trap?_writeOrTrap _ (add?_eq_none_iff _ _)
  | sub => exact trap?_writeOrTrap _ (sub?_eq_none_iff _ _)
  | lb => exact cpu.trap?_loadRegister i _
  | lbu => exact cpu.trap?_loadRegister i _
  | lh => exact cpu.trap?_loadRegister i _
  | lhu => exact cpu.trap?_loadRegister i _
  | lw => exact cpu.trap?_loadRegister i _
  | sb => exact cpu.trap?_storeRegister i
  | sh => exact cpu.trap?_storeRegister i
  | sw => exact cpu.trap?_storeRegister i
  | cop n => exact cpu.trap?_coprocessorEffect i n
  | lwc n => exact cpu.trap?_transfer i n rfl
  | swc n => exact cpu.trap?_transfer i n rfl
  | _ => rfl

theorem aligned_transfer (n : Coprocessor)
    (h : AccessWidth.word.isAligned (cpu.effectiveAddress i) = true → access.Aligned) :
    (if n ≠ .two || !cpu.system.usable n then unusable n
      else aligned .word cause (cpu.effectiveAddress i) access).Aligned := by
  split
  · trivial
  · exact aligned_aligned h

theorem aligned_coprocessorEffect (n : Coprocessor) : (cpu.coprocessorEffect i n).Aligned := by
  unfold coprocessorEffect systemEffect geometryEffect systemCommand
  repeat' split
  all_goals trivial

/-- No instruction accesses memory in spite of its alignment. -/
theorem aligned_effect : (cpu.effect i).Aligned := by
  have hwrite : ∀ r result, (writeOrTrap r result).Aligned := by
    intro r result
    cases result <;> trivial
  have hstore : ∀ width, (cpu.storeRegister i width).Aligned := by
    intro width
    refine aligned_aligned fun h => ?_
    split
    · trivial
    · exact h
  unfold effect
  cases i.operation with
  | add => exact hwrite _ _
  | addi => exact hwrite _ _
  | sub => exact hwrite _ _
  | lb => exact aligned_aligned id
  | lbu => exact aligned_aligned id
  | lh => exact aligned_aligned id
  | lhu => exact aligned_aligned id
  | lw => exact aligned_aligned id
  | sb => exact hstore _
  | sh => exact hstore _
  | sw => exact hstore _
  | cop n => exact cpu.aligned_coprocessorEffect i n
  | lwc n => exact cpu.aligned_transfer i n id
  | swc n => exact cpu.aligned_transfer i n id
  | _ => trivial

/-! ## A step -/

/-- Memory settles an effect to its trap. -/
theorem settle_of_trap? (m : Memory) {e : Effect} {t : Trap} (haligned : e.Aligned)
    (h : e.trap? = some t) : cpu.settle m e = (.ok (.trap t), m) := by
  cases e with
  | load width address target =>
    by_cases hvacant : vacant address = true
    · rw [Effect.trap?, if_pos hvacant] at h
      cases h
      have hread : Bus.load width address m = (.error (.unmapped address), m) :=
        congrArg (·, m) (m.read_of_vacant haligned hvacant)
      simp only [settle, hread, refusal]
    · rw [Effect.trap?, if_neg hvacant] at h
      cases h
  | store width address value =>
    by_cases hvacant : vacant address = true
    · rw [Effect.trap?, if_pos hvacant] at h
      cases h
      have hwrite : Bus.store width address (value &&& width.mask) m =
          .stopped (.unmapped address) m := m.write_of_vacant _ haligned hvacant
      simp only [settle, hwrite, Outcome.stopped, refusal]
    · rw [Effect.trap?, if_neg hvacant] at h
      cases h
  | raise t' =>
    cases h
    rfl
  | _ => cases h

/-- Without a trap memory settles no effect to one. -/
theorem ne_trap_of_settle {m m' : Memory} {e : Effect} {a : Action} (haligned : e.Aligned)
    (h : e.trap? = none) (hsettle : cpu.settle m e = (.ok a, m')) (t : Trap) : a ≠ .trap t := by
  rintro rfl
  cases e with
  | load width address target =>
    by_cases hvacant : vacant address = true
    · rw [Effect.trap?, if_pos hvacant] at h
      cases h
    · obtain ⟨value, hvalue⟩ := m.read_of_not_vacant haligned (eq_false_of_ne_true hvacant)
      have hread : Bus.load width address m = (.ok value, m) := congrArg (·, m) hvalue
      simp only [settle, hread] at hsettle
      cases target <;> cases hsettle
  | store width address value =>
    by_cases hvacant : vacant address = true
    · rw [Effect.trap?, if_pos hvacant] at h
      cases h
    · obtain ⟨m'', hdone⟩ :=
        m.write_of_not_vacant (value &&& width.mask) haligned (eq_false_of_ne_true hvacant)
      have hwrite : Bus.store width address (value &&& width.mask) m = .done m'' := hdone
      simp only [settle, hwrite, Outcome.done] at hsettle
      cases hsettle
  | raise t' => cases h
  | _ => cases hsettle

/-- **A fetched instruction** settles to a trap exactly when the table says so. -/
theorem settle_memory (m : Memory) :
    (∃ t, cpu.instructionException? i = some t ∧
      (cpu.fetched i).settle m ((cpu.fetched i).effect i) = (.ok (.trap t), m)) ∨
    (cpu.instructionException? i = none ∧
      ∀ a m', (cpu.fetched i).settle m ((cpu.fetched i).effect i) = (.ok a, m') →
        ∀ t, a ≠ .trap t) := by
  have htrap : ((cpu.fetched i).effect i).trap? = cpu.instructionException? i :=
    trap?_effect (cpu.fetched i) i
  have haligned := aligned_effect (cpu.fetched i) i
  cases hcase : cpu.instructionException? i with
  | some t => exact .inl ⟨t, rfl, settle_of_trap? _ m haligned (htrap.trans hcase)⟩
  | none =>
    exact .inr ⟨rfl, fun a m' hsettle => ne_trap_of_settle _ haligned (htrap.trans hcase) hsettle⟩

/-- **The course of a step in memory** is a trap exactly when the table says so, and then it is that
trap and leaves memory alone. -/
theorem course_memory (m : Memory) :
    (∃ t i, cpu.exception? m = some t ∧ cpu.course m = (.ok (i, .trap t), m)) ∨
    (cpu.exception? m = none ∧
      ∀ i a m', cpu.course m = (.ok (i, a), m') → ∀ t, a ≠ .trap t) := by
  have hsystem : cpu.begin.system = cpu.system := rfl
  have hpc : cpu.begin.pc = cpu.pc := rfl
  have hword : (!AccessWidth.word.isAligned cpu.pc) = decide (cpu.pc.toNat % 4 ≠ 0) := by
    rw [AccessWidth.isAligned_eq, ← decide_not]
    rfl
  simp only [course, hsystem, hpc, hword, decide_eq_true_iff]
  rw [exception?]
  by_cases hinterrupt : cpu.system.interruptPending = true
  · rw [if_pos hinterrupt, if_pos hinterrupt]
    exact .inl ⟨_, _, rfl, rfl⟩
  rw [if_neg hinterrupt, if_neg hinterrupt]
  by_cases hmisaligned : cpu.pc.toNat % 4 ≠ 0
  · rw [if_pos hmisaligned, if_pos hmisaligned]
    exact .inl ⟨_, _, rfl, rfl⟩
  rw [if_neg hmisaligned, if_neg hmisaligned]
  have haligned : AccessWidth.word.isAligned cpu.pc = true := by
    rw [AccessWidth.isAligned_eq]
    exact decide_eq_true (Decidable.not_not.1 hmisaligned)
  by_cases hvacant : vacant cpu.pc = true
  · -- nothing lies at the program counter
    have hread := m.read_of_vacant haligned hvacant
    have hload : Bus.load .word cpu.pc m = (.error (.unmapped cpu.pc), m) :=
      congrArg (·, m) hread
    rw [hread, hload]
    exact .inl ⟨_, _, rfl, rfl⟩
  -- an instruction is fetched, and its effect settles
  obtain ⟨word, hread⟩ := m.read_of_not_vacant haligned (eq_false_of_ne_true hvacant)
  have hload : Bus.load .word cpu.pc m = (.ok word, m) := congrArg (·, m) hread
  rw [hread, hload]
  rcases cpu.settle_memory ⟨word⟩ m with ⟨t, htable, hsettle⟩ | ⟨htable, hplain⟩
  · simp only [hsettle]
    exact .inl ⟨t, ⟨word⟩, htable, rfl⟩
  · refine .inr ⟨htable, fun i a m' hcourse => ?_⟩
    rcases hsettle : (cpu.fetched ⟨word⟩).settle m ((cpu.fetched ⟨word⟩).effect ⟨word⟩)
      with ⟨fault | action, m''⟩
    · simp only [hsettle] at hcourse
      cases hcourse
    · simp only [hsettle] at hcourse
      cases hcourse
      exact hplain _ _ hsettle

/-! ## The traps of the table -/

/-- A trap that leaves nothing but its cause. -/
theorem proper_of_cause {cause : ExceptionCause} (h : cause ≠ .addressErrorLoad ∧
      cause ≠ .addressErrorStore ∧ cause ≠ .coprocessorUnusable) : Trap.Proper { cause } where
  badAddress := by
    refine ⟨fun hsome => (nomatch hsome), fun haddress => ?_⟩
    rcases haddress with hload | hstore
    · exact absurd hload h.1
    · exact absurd hstore h.2.1
  coprocessor := ⟨fun hsome => (nomatch hsome), fun hunusable => absurd hunusable h.2.2⟩

theorem proper_of_access? {width : AccessWidth} {cause : ExceptionCause} {address : UInt32}
    {reaches : Bool} {t : Trap} (hcause : cause = .addressErrorLoad ∨ cause = .addressErrorStore)
    (h : access? width cause address reaches = some t) : t.Proper := by
  rw [access?] at h
  split at h
  · cases h
    constructor
    · exact ⟨fun _ => hcause, fun _ => rfl⟩
    · rcases hcause with rfl | rfl <;> simp
  · split at h
    · cases h
      exact proper_of_cause (by decide)
    · cases h

theorem proper_of_transfer? {n : Coprocessor} {cause : ExceptionCause} {t : Trap}
    (hcause : cause = .addressErrorLoad ∨ cause = .addressErrorStore)
    (h : cpu.transfer? i n cause = some t) : t.Proper := by
  rw [transfer?] at h
  split at h
  · exact proper_of_access? hcause h
  · cases h
    constructor <;> simp

theorem proper_of_work? {n : Coprocessor} {t : Trap} (h : cpu.work? i n = some t) : t.Proper := by
  unfold work? at h
  split at h
  · split at h
    · cases h
      exact proper_of_cause (by decide)
    · cases h
      exact proper_of_cause (by decide)
    · cases h
      exact proper_of_cause (by decide)
    · split at h
      · cases h
      · cases h
        exact proper_of_cause (by decide)
    · cases h
  · cases h
    constructor <;> simp

theorem proper_of_instructionException? {t : Trap} (h : cpu.instructionException? i = some t) :
    t.Proper := by
  have hoverflow : ∀ {z : Int}, overflow? z = some t → t.Proper := by
    intro z h
    rw [overflow?] at h
    split at h
    · cases h
    · cases h
      exact proper_of_cause (by decide)
  unfold instructionException? at h
  generalize i.operation = operation at h
  cases operation with
  | syscall =>
    cases h
    exact proper_of_cause (by decide)
  | «break» =>
    cases h
    exact proper_of_cause (by decide)
  | reserved =>
    cases h
    exact proper_of_cause (by decide)
  | add => exact hoverflow h
  | addi => exact hoverflow h
  | sub => exact hoverflow h
  | lb => exact proper_of_access? (.inl rfl) h
  | lbu => exact proper_of_access? (.inl rfl) h
  | lh => exact proper_of_access? (.inl rfl) h
  | lhu => exact proper_of_access? (.inl rfl) h
  | lw => exact proper_of_access? (.inl rfl) h
  | sb => exact proper_of_access? (.inr rfl) h
  | sh => exact proper_of_access? (.inr rfl) h
  | sw => exact proper_of_access? (.inr rfl) h
  | cop n => exact proper_of_work? cpu i h
  | lwc n => exact proper_of_transfer? cpu i (.inl rfl) h
  | swc n => exact proper_of_transfer? cpu i (.inr rfl) h
  | _ => cases h

theorem proper_of_exception? {m : Memory} {t : Trap} (h : cpu.exception? m = some t) :
    t.Proper := by
  rw [exception?] at h
  split at h
  · cases h
    exact proper_of_cause (by decide)
  split at h
  · cases h
    constructor <;> simp
  split at h
  · exact proper_of_instructionException? cpu _ h
  · cases h
    exact proper_of_cause (by decide)

end Cpu

end PlayStation

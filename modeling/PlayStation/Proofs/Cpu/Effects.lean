/-
  What an instruction does OUTSIDE OF ITSELF.

  Most instructions change registers, or raise an exception, and are done.  Two things reach
  further: a transfer of control, whose delay slot follows, and an access to memory.  `Cpu.Means`
  lists by operation which instructions do either, and under which conditions; all else is in it as
  `plain` and `work`.

  `means_effect` is the one case split over the instruction set; what is said of branches or of
  stores from here on is a case split over `Means`.
-/
import PlayStation.Cpu.Effect

namespace PlayStation

/-- The operation is a jump or a branch on registers. -/
def Operation.isTransfer : Operation → Bool
  | .j | .jal | .jr | .jalr => true
  | .beq | .bne | .blez | .bgtz => true
  | .bltz | .bgez | .bltzal | .bgezal => true
  | _ => false

/-- The operation transfers no control, and a coprocessor has nothing to say about it. -/
def Operation.isPlain : Operation → Bool
  | .cop _ => false
  | operation => !operation.isTransfer

theorem Operation.of_isPlain {operation : Operation} (h : operation.isPlain = true) :
    operation.isTransfer = false ∧ ∀ n, operation ≠ .cop n := by
  unfold isPlain at h
  split at h
  · cases h
  · next hcop => exact ⟨by simpa using h, hcop⟩

/-- The effect neither branches nor accesses memory. -/
def Effect.isLocal : Effect → Bool
  | .branch _ _ => false
  | .load _ _ _ => false
  | .store _ _ _ => false
  | _ => true

namespace Cpu

variable (cpu : Cpu) (i : Instruction)

/-- What the operations of an instruction can have for an effect. -/
inductive Means : Operation → Effect → Prop
  | plain {operation : Operation} {e : Effect} (hplain : operation.isPlain = true)
      (hlocal : e.isLocal = true) : Means operation e
  | branch {operation : Operation} (htransfer : operation.isTransfer = true)
      (link : Option (Reg × UInt32)) (target : Option UInt32) :
      Means operation (.branch link target)
  | load {operation : Operation} (hplain : operation.isPlain = true) (width : AccessWidth)
      (target : LoadTarget) : Means operation (.load width (cpu.effectiveAddress i) target)
  /-- A general register is stored, but not into a cache that is isolated. -/
  | store {operation : Operation} (hstore : operation ∈ [.sb, .sh, .sw])
      (hopen : cpu.system.cacheIsolated = false) (width : AccessWidth) :
      Means operation (.store width (cpu.effectiveAddress i) (cpu.rt i))
  /-- A register of the geometry engine is stored, whatever the cache does. -/
  | storeGeometry (husable : cpu.system.usable .two = true)
      (haligned : AccessWidth.word.isAligned (cpu.effectiveAddress i) = true) :
      Means (.swc .two)
        (.store .word (cpu.effectiveAddress i) (cpu.geometry.data.entry i.rt))
  | branchOnFalse {n : Coprocessor} (husable : cpu.system.usable n = true)
      (hbcf : i.coprocessorOperation = .bcf) (target : Option UInt32) :
      Means (.cop n) (.branch none target)
  | work {n : Coprocessor} {e : Effect}
      (hother : ¬(cpu.system.usable n = true ∧ i.coprocessorOperation = .bcf))
      (hlocal : e.isLocal = true) : Means (.cop n) e

section Families

variable {cpu i} {operation : Operation} {width : AccessWidth} {cause : ExceptionCause}
  {access : Effect}

theorem means_writeOrTrap (hplain : operation.isPlain = true) (r : Reg) (result : Option UInt32) :
    cpu.Means i operation (writeOrTrap r result) := by
  cases result with
  | none => exact .plain hplain rfl
  | some value => exact .plain hplain rfl

theorem means_aligned (hplain : operation.isPlain = true)
    (haccess : width.isAligned (cpu.effectiveAddress i) = true → cpu.Means i operation access) :
    cpu.Means i operation (aligned width cause (cpu.effectiveAddress i) access) := by
  by_cases haligned : width.isAligned (cpu.effectiveAddress i) = true
  · rw [aligned, if_pos haligned]
    exact haccess haligned
  · rw [aligned, if_neg haligned]
    exact .plain hplain rfl

theorem means_loadRegister (hplain : operation.isPlain = true) (widening : Widening) :
    cpu.Means i operation (cpu.loadRegister i width widening) :=
  means_aligned hplain fun _ => .load hplain width _

theorem means_storeRegister (hstore : operation ∈ [.sb, .sh, .sw]) :
    cpu.Means i operation (cpu.storeRegister i width) := by
  have hplain : operation.isPlain = true := by
    simp only [List.mem_cons, List.not_mem_nil, or_false] at hstore
    rcases hstore with rfl | rfl | rfl <;> rfl
  refine means_aligned hplain fun _ => ?_
  by_cases hisolated : cpu.system.cacheIsolated = true
  · rw [if_pos hisolated]
    exact .plain hplain rfl
  · rw [if_neg hisolated]
    exact .store hstore (eq_false_of_ne_true hisolated) width

variable (cpu i)

theorem means_loadCoprocessor (n : Coprocessor) :
    cpu.Means i (.lwc n) (cpu.loadCoprocessor i n) := by
  unfold loadCoprocessor
  split
  · exact .plain rfl rfl
  · exact means_aligned rfl fun _ => .load rfl .word _

theorem means_storeCoprocessor (n : Coprocessor) :
    cpu.Means i (.swc n) (cpu.storeCoprocessor i n) := by
  unfold storeCoprocessor
  by_cases hrefused : (decide (n ≠ .two) || !cpu.system.usable n) = true
  · rw [if_pos hrefused]
    exact .plain rfl rfl
  · rw [if_neg hrefused]
    simp only [Bool.or_eq_true, decide_eq_true_eq, Bool.not_eq_true', not_or,
      Decidable.not_not, Bool.not_eq_false] at hrefused
    obtain ⟨rfl, husable⟩ := hrefused
    exact means_aligned rfl fun haligned => .storeGeometry husable haligned

/-- Work of a coprocessor branches on a condition that is false, and else stays inside. -/
theorem means_coprocessorEffect (n : Coprocessor) :
    cpu.Means i (.cop n) (cpu.coprocessorEffect i n) := by
  by_cases husable : cpu.system.usable n = true
  · rw [coprocessorEffect, if_pos husable]
    have hother : ∀ {operation}, i.coprocessorOperation = operation → operation ≠ .bcf →
        ¬(cpu.system.usable n = true ∧ i.coprocessorOperation = .bcf) := by
      rintro operation rfl hne ⟨-, hbcf⟩
      exact hne hbcf
    unfold systemEffect geometryEffect systemCommand branchIf
    cases hwork : i.coprocessorOperation with
    | bcf => split <;> exact .branchOnFalse husable hwork _
    | command immediate =>
      have hcommand := hother hwork nofun
      dsimp only
      split
      · split <;> exact .work hcommand rfl
      · exact .work hcommand rfl
    | _ =>
      have hcommand := hother hwork nofun
      split <;> exact .work hcommand rfl
  · rw [coprocessorEffect, if_neg husable]
    exact .work (fun h => husable h.1) rfl

end Families

/-- **Every instruction** has an effect that its operation can have. -/
theorem means_effect : cpu.Means i i.operation (cpu.effect i) := by
  unfold effect
  cases i.operation with
  | jr => exact .branch rfl _ _
  | jalr => exact .branch rfl _ _
  | j => exact .branch rfl _ _
  | jal => exact .branch rfl _ _
  | bltz => exact .branch rfl _ _
  | bgez => exact .branch rfl _ _
  | bltzal => exact .branch rfl _ _
  | bgezal => exact .branch rfl _ _
  | beq => exact .branch rfl _ _
  | bne => exact .branch rfl _ _
  | blez => exact .branch rfl _ _
  | bgtz => exact .branch rfl _ _
  | add => exact means_writeOrTrap rfl _ _
  | addi => exact means_writeOrTrap rfl _ _
  | sub => exact means_writeOrTrap rfl _ _
  | lb => exact means_loadRegister rfl _
  | lbu => exact means_loadRegister rfl _
  | lh => exact means_loadRegister rfl _
  | lhu => exact means_loadRegister rfl _
  | lw => exact means_loadRegister rfl _
  | sb => exact means_storeRegister (by decide)
  | sh => exact means_storeRegister (by decide)
  | sw => exact means_storeRegister (by decide)
  | lwc n => exact cpu.means_loadCoprocessor i n
  | swc n => exact cpu.means_storeCoprocessor i n
  | cop n => exact cpu.means_coprocessorEffect i n
  | _ => exact .plain rfl rfl

end Cpu

end PlayStation

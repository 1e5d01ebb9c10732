/-
  SIGNED ARITHMETIC, told without bits.

  A register stands for a signed number (`signedValue`), and 32 bits can hold the numbers from
  -2^31 to 2^31 - 1 (`Representable`).  The trapping instructions look at signs; what they find out
  is whether the exact result is representable (`add?_eq_none_iff`, `sub?_eq_none_iff`), and where
  it is, it is the one they have (`signedValue_of_add?`, `signedValue_of_sub?`).
-/
import PlayStation.Cpu.Arithmetic

namespace PlayStation

/-- The signed number in a register. -/
def signedValue (a : UInt32) : Int := a.toInt32.toInt

/-- A number that 32 bits can hold. -/
def Representable (z : Int) : Prop := -0x80000000 ≤ z ∧ z < 0x80000000

instance (z : Int) : Decidable (Representable z) := inferInstanceAs (Decidable (_ ∧ _))

theorem signedValue_representable (a : UInt32) : Representable (signedValue a) :=
  ⟨a.toInt32.le_toInt, a.toInt32.toInt_lt⟩

theorem signedValue_inj {a b : UInt32} : signedValue a = signedValue b ↔ a = b :=
  BitVec.toInt_inj.trans UInt32.toBitVec_inj

theorem isNegative_eq_msb (a : UInt32) : isNegative a = a.toBitVec.msb := by
  have hshift : (a >>> 31).toNat = a.toNat / 2 ^ 31 := by
    rw [UInt32.toNat_shiftRight, Nat.shiftRight_eq_div_pow]
    rfl
  rw [isNegative, BitVec.msb_eq_decide, Bool.eq_iff_iff, bne_iff_ne, decide_eq_true_iff, ne_eq,
    ← UInt32.toNat_inj, hshift]
  show ¬a.toNat / 2 ^ 31 = 0 ↔ 2 ^ 31 ≤ a.toNat
  omega

theorem isNegative_iff (a : UInt32) : isNegative a = true ↔ signedValue a < 0 := by
  rw [isNegative_eq_msb, BitVec.msb_eq_toInt, decide_eq_true_iff]
  rfl

/-- **An addition traps** exactly when the exact sum does not fit. -/
theorem add?_eq_none_iff (a b : UInt32) :
    add? a b = none ↔ ¬Representable (signedValue a + signedValue b) := by
  have hoverflow : a.toBitVec.saddOverflow b.toBitVec = true ↔
      ¬Representable (signedValue a + signedValue b) := by
    show (decide (signedValue a + signedValue b ≥ 2 ^ 31) ||
      decide (signedValue a + signedValue b < -2 ^ 31)) = true ↔ _
    rw [Bool.or_eq_true, decide_eq_true_iff, decide_eq_true_iff, Representable]
    omega
  rw [← hoverflow, BitVec.saddOverflow_eq, add?, isNegative_eq_msb, isNegative_eq_msb,
    isNegative_eq_msb, UInt32.toBitVec_add]
  cases a.toBitVec.msb <;> cases b.toBitVec.msb <;>
    cases (a.toBitVec + b.toBitVec).msb <;> simp

/-- **A subtraction traps** exactly when the exact difference does not fit. -/
theorem sub?_eq_none_iff (a b : UInt32) :
    sub? a b = none ↔ ¬Representable (signedValue a - signedValue b) := by
  have hoverflow : a.toBitVec.ssubOverflow b.toBitVec = true ↔
      ¬Representable (signedValue a - signedValue b) := by
    show (decide (signedValue a - signedValue b ≥ 2 ^ 31) ||
      decide (signedValue a - signedValue b < -2 ^ 31)) = true ↔ _
    rw [Bool.or_eq_true, decide_eq_true_iff, decide_eq_true_iff, Representable]
    omega
  rw [← hoverflow, BitVec.ssubOverflow_eq, sub?, isNegative_eq_msb, isNegative_eq_msb,
    isNegative_eq_msb, UInt32.toBitVec_sub]
  cases a.toBitVec.msb <;> cases b.toBitVec.msb <;>
    cases (a.toBitVec - b.toBitVec).msb <;> simp

/-- A representable number is the one that its 32 bits stand for. -/
theorem bmod_of_representable {z : Int} (h : Representable z) : z.bmod 0x100000000 = z := by
  obtain ⟨hlow, hhigh⟩ := h
  exact Int.bmod_eq_of_le_mul_two (by omega) (by omega)

/-- A result that is missing where a number does not fit, and elsewhere is its low 32 bits, is the
number. -/
theorem signedValue_of_bmod {result : Option UInt32} {value : UInt32} {z : Int}
    (hnone : result = none ↔ ¬Representable z) (hsome : result = some value)
    (hbmod : signedValue value = z.bmod 0x100000000) : signedValue value = z := by
  have hfits : Representable z :=
    Decidable.not_not.1 fun hunfit => nomatch hsome.symm.trans (hnone.2 hunfit)
  exact hbmod.trans (bmod_of_representable hfits)

/-- **A sum** that does not trap is exact. -/
theorem signedValue_of_add? {a b value : UInt32} (h : add? a b = some value) :
    signedValue value = signedValue a + signedValue b := by
  refine signedValue_of_bmod (add?_eq_none_iff a b) h ?_
  simp only [add?, Option.ite_none_left_eq_some, Option.some.injEq] at h
  rw [← h.2]
  exact Int32.toInt_add a.toInt32 b.toInt32

/-- **A difference** that does not trap is exact. -/
theorem signedValue_of_sub? {a b value : UInt32} (h : sub? a b = some value) :
    signedValue value = signedValue a - signedValue b := by
  refine signedValue_of_bmod (sub?_eq_none_iff a b) h ?_
  simp only [sub?, Option.ite_none_left_eq_some, Option.some.injEq] at h
  rw [← h.2]
  exact Int32.toInt_sub a.toInt32 b.toInt32

end PlayStation

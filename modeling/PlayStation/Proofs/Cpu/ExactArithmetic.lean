/-
  EXACT ARITHMETIC: what the integer instructions leave behind, told by the numbers.

  A register is read as a signed number (`signedValue`) or as an unsigned one, and so is the pair
  HI:LO (`HiLo.signed`, `HiLo.unsigned`).

  1. **The host** that carries the instructions out has multiplications and divisions of its own,
     in which a result that does not fit and a divisor of zero are errors.  A product of the
     processor is one product of the host, and a quotient at most one remainder and one quotient.
     So each is told a second time, with the operations of the host checked (`HiLo.mulSigned?`,
     `HiLo.divSigned?` and their unsigned siblings), and the checks make no difference.  A sum that
     does not fit is no error of the host: it is asked for in a form that answers `none`.

  2. **Products**: two factors of 32 bits always have a product of 64, and the pair holds it.

  3. **Quotients**: the only one that does not fit is that of -2^31 by -1
     (`representable_tdiv_iff`), which is why that case stands in front of the division.

  4. **The instructions** (`perform_exact`): every one that adds, multiplies or divides does in any
     state what exact arithmetic says of it, without an error of the host.
-/
import PlayStation.Memory.Basic
import PlayStation.Proofs.Cpu.Registers
import PlayStation.Proofs.Cpu.SignedArithmetic

namespace PlayStation

/-! ## Operands and pairs as numbers -/

/-- The number that the low halfword of an instruction stands for. -/
def Instruction.immediate (i : Instruction) : Int := i.word.toUInt16.toInt16.toInt

theorem signedValue_immSigned (i : Instruction) : signedValue i.immSigned = i.immediate :=
  Int16.toInt_toInt32 _

namespace HiLo

/-- The signed number of 64 bits in the pair. -/
def signed (pair : HiLo) : Int := signedValue pair.hi * 0x100000000 + pair.lo.toNat

/-- The unsigned number of 64 bits in the pair. -/
def unsigned (pair : HiLo) : Nat := pair.hi.toNat * 0x100000000 + pair.lo.toNat

theorem unsigned_ofProduct (product : UInt64) : (ofProduct product).unsigned = product.toNat := by
  have hhi : (product >>> 32).toUInt32.toNat = product.toNat / 2 ^ 32 := by
    rw [UInt64.toNat_toUInt32, UInt64.toNat_shiftRight, Nat.shiftRight_eq_div_pow]
    show product.toNat / 2 ^ 32 % 2 ^ 32 = product.toNat / 2 ^ 32
    have := product.toNat_lt
    omega
  rw [unsigned, ofProduct, hhi, UInt64.toNat_toUInt32]
  omega

/-- The signed reading of 64 bits differs from the unsigned one by the sign bit alone. -/
theorem signed_ofProduct (product : Int64) :
    (ofProduct product.toUInt64).signed = product.toInt := by
  have hpair := unsigned_ofProduct product.toUInt64
  have hhi : signedValue (ofProduct product.toUInt64).hi =
      if 2 * (ofProduct product.toUInt64).hi.toNat < 2 ^ 32
        then ((ofProduct product.toUInt64).hi.toNat : Int)
        else (ofProduct product.toUInt64).hi.toNat - (2 ^ 32 : Nat) :=
    BitVec.toInt_eq_toNat_cond _
  have hproduct : product.toInt =
      if 2 * product.toUInt64.toNat < 2 ^ 64 then (product.toUInt64.toNat : Int)
        else product.toUInt64.toNat - (2 ^ 64 : Nat) :=
    BitVec.toInt_eq_toNat_cond _
  have hlo := (ofProduct product.toUInt64).lo.toNat_lt
  rw [unsigned] at hpair
  rw [signed, hhi, hproduct]
  split <;> split <;> omega

end HiLo

/-! ## Arithmetic of the host -/

namespace Host

/-- A signed product of 64 bits, or an error if it does not fit. -/
def mulSigned? (a b : Int64) : Option Int64 :=
  if -0x8000000000000000 ≤ a.toInt * b.toInt ∧ a.toInt * b.toInt < 0x8000000000000000 then
    some (a * b)
  else none

/-- An unsigned product of 64 bits, or an error if it does not fit. -/
def mulUnsigned? (a b : UInt64) : Option UInt64 :=
  if a.toNat * b.toNat < 0x10000000000000000 then some (a * b) else none

/-- A signed quotient, or an error if there is none or it does not fit. -/
def divSigned? (n d : Int32) : Option Int32 :=
  if d ≠ 0 ∧ Representable (n.toInt.tdiv d.toInt) then some (n / d) else none

/-- A signed remainder, or an error if there is none or the quotient does not fit. -/
def remSigned? (n d : Int32) : Option Int32 :=
  if d ≠ 0 ∧ Representable (n.toInt.tdiv d.toInt) then some (n % d) else none

/-- An unsigned quotient, or an error if there is none. -/
def divUnsigned? (n d : UInt32) : Option UInt32 := if d ≠ 0 then some (n / d) else none

/-- An unsigned remainder, or an error if there is none. -/
def remUnsigned? (n d : UInt32) : Option UInt32 := if d ≠ 0 then some (n % d) else none

end Host

/-! ## Products -/

/-- The product of two numbers of 32 bits has at most 64. -/
theorem mul_within {a b : Int} (ha : Representable a) (hb : Representable b) :
    -0x8000000000000000 ≤ a * b ∧ a * b < 0x8000000000000000 := by
  have habs : ∀ {z : Int}, Representable z → z.natAbs ≤ 2 ^ 31 := by
    rintro z ⟨hlow, hhigh⟩
    omega
  have hproduct : (a * b).natAbs ≤ 2 ^ 31 * 2 ^ 31 := by
    rw [Int.natAbs_mul]
    exact Nat.mul_le_mul (habs ha) (habs hb)
  omega

namespace HiLo

/-- The signed product, with the host's multiplication checked. -/
def mulSigned? (a b : UInt32) : Option HiLo :=
  (Host.mulSigned? a.toInt32.toInt64 b.toInt32.toInt64).map fun product =>
    ofProduct product.toUInt64

/-- The unsigned product, with the host's multiplication checked. -/
def mulUnsigned? (a b : UInt32) : Option HiLo :=
  (Host.mulUnsigned? a.toUInt64 b.toUInt64).map ofProduct

variable (a b : UInt32)

theorem signed_within :
    -0x8000000000000000 ≤ a.toInt32.toInt64.toInt * b.toInt32.toInt64.toInt ∧
      a.toInt32.toInt64.toInt * b.toInt32.toInt64.toInt < 0x8000000000000000 := by
  rw [Int32.toInt_toInt64, Int32.toInt_toInt64]
  exact mul_within (signedValue_representable a) (signedValue_representable b)

theorem unsigned_within : a.toUInt64.toNat * b.toUInt64.toNat < 0x10000000000000000 := by
  rw [UInt32.toNat_toUInt64, UInt32.toNat_toUInt64]
  calc a.toNat * b.toNat < 0x100000000 * 0x100000000 :=
        Nat.mul_lt_mul_of_lt_of_lt a.toNat_lt b.toNat_lt
    _ = 0x10000000000000000 := rfl

/-- The host has no error in a signed product. -/
theorem mulSigned?_eq : mulSigned? a b = some (mulSigned a b) := by
  rw [mulSigned?, Host.mulSigned?, if_pos (signed_within a b)]
  rfl

/-- **A signed product** is exact. -/
theorem signed_mulSigned : (mulSigned a b).signed = signedValue a * signedValue b := by
  obtain ⟨hlow, hhigh⟩ := signed_within a b
  rw [mulSigned, signed_ofProduct, Int64.toInt_mul,
    Int.bmod_eq_of_le_mul_two (by omega) (by omega), Int32.toInt_toInt64, Int32.toInt_toInt64]
  rfl

/-- The host has no error in an unsigned product. -/
theorem mulUnsigned?_eq : mulUnsigned? a b = some (mulUnsigned a b) := by
  rw [mulUnsigned?, Host.mulUnsigned?, if_pos (unsigned_within a b)]
  rfl

/-- **An unsigned product** is exact. -/
theorem unsigned_mulUnsigned : (mulUnsigned a b).unsigned = a.toNat * b.toNat := by
  rw [mulUnsigned, unsigned_ofProduct, UInt64.toNat_mul, Nat.mod_eq_of_lt (unsigned_within a b),
    UInt32.toNat_toUInt64, UInt32.toNat_toUInt64]

end HiLo

/-! ## Quotients -/

/-- What makes two numbers the quotient, cut off toward zero, and the remainder of two others. -/
structure Truncates (n d quotient remainder : Int) : Prop where
  exact : n = quotient * d + remainder
  small : remainder.natAbs < d.natAbs
  sign : remainder = 0 ∨ remainder.sign = n.sign

theorem truncates_tdiv_tmod (n : Int) {d : Int} (h : d ≠ 0) :
    Truncates n d (n.tdiv d) (n.tmod d) where
  exact := (Int.tdiv_mul_add_tmod n d).symm
  small := by
    rw [Int.natAbs_tmod]
    exact Nat.mod_lt _ (Int.natAbs_pos.2 h)
  sign := by
    by_cases hdvd : d ∣ n
    · exact .inl (Int.tmod_eq_zero_of_dvd hdvd)
    · exact .inr ((Int.sign_tmod n d).trans (if_neg hdvd))

/-- **A quotient fits** unless it is that of -2^31 by -1. -/
theorem representable_tdiv_iff {n d : Int} (hn : Representable n) (hd : d ≠ 0) :
    Representable (n.tdiv d) ↔ ¬(n = -0x80000000 ∧ d = -1) := by
  obtain ⟨hlow, hhigh⟩ := hn
  constructor
  · rintro hfits ⟨rfl, rfl⟩
    exact absurd hfits (by decide)
  · intro hcorner
    by_cases hone : d.natAbs = 1
    · obtain rfl | rfl : d = 1 ∨ d = -1 := by omega
      · rw [Int.tdiv_one]
        exact ⟨hlow, hhigh⟩
      · rw [Int.tdiv_neg, Int.tdiv_one]
        constructor <;> omega
    · -- a divisor beyond 1 at least halves
      have hhalf : (n.tdiv d).natAbs ≤ n.natAbs / 2 := by
        rw [Int.natAbs_tdiv]
        exact Nat.div_le_div_left (by omega) (by decide)
      constructor <;> omega

namespace HiLo

/-- Signed division, with the host's divisions checked. -/
def divSigned? (n d : UInt32) : Option HiLo :=
  if d == 0 then some ⟨n, if isNegative n then 1 else 0xFFFFFFFF⟩
  else if n == 0x80000000 && d == 0xFFFFFFFF then some ⟨0, 0x80000000⟩
  else do
    let remainder ← Host.remSigned? n.toInt32 d.toInt32
    let quotient ← Host.divSigned? n.toInt32 d.toInt32
    return ⟨remainder.toUInt32, quotient.toUInt32⟩

/-- Unsigned division, with the host's divisions checked. -/
def divUnsigned? (n d : UInt32) : Option HiLo :=
  if d == 0 then some ⟨n, 0xFFFFFFFF⟩
  else do
    let remainder ← Host.remUnsigned? n d
    let quotient ← Host.divUnsigned? n d
    return ⟨remainder, quotient⟩

/-- What signed division leaves. -/
def IsSignedQuotient (n d : UInt32) (pair : HiLo) : Prop :=
  if signedValue d = 0 then
    pair.hi = n ∧ pair.lo = if signedValue n < 0 then 1 else 0xFFFFFFFF
  else if signedValue n = -0x80000000 ∧ signedValue d = -1 then
    pair.lo = 0x80000000 ∧ pair.hi = 0
  else Truncates (signedValue n) (signedValue d) (signedValue pair.lo) (signedValue pair.hi)

/-- What unsigned division leaves. -/
def IsUnsignedQuotient (n d : UInt32) (pair : HiLo) : Prop :=
  if d.toNat = 0 then pair.hi = n ∧ pair.lo = 0xFFFFFFFF
  else Truncates n.toNat d.toNat pair.lo.toNat pair.hi.toNat

variable {n d : UInt32}

theorem signedValue_eq_zero : signedValue d = 0 ↔ d = 0 :=
  signedValue_inj (b := 0)

/-- The guard in front of the signed division is the case of the quotient that does not fit. -/
theorem corner_iff : (n == 0x80000000 && d == 0xFFFFFFFF) = true ↔
    signedValue n = -0x80000000 ∧ signedValue d = -1 := by
  rw [Bool.and_eq_true, beq_iff_eq, beq_iff_eq]
  exact and_congr (signedValue_inj (b := 0x80000000)).symm (signedValue_inj (b := 0xFFFFFFFF)).symm

/-- Behind the guards the host's signed division is without error. -/
theorem quotient_within (hzero : d ≠ 0)
    (hcorner : ¬(signedValue n = -0x80000000 ∧ signedValue d = -1)) :
    d.toInt32 ≠ 0 ∧ Representable (n.toInt32.toInt.tdiv d.toInt32.toInt) := by
  have hd : signedValue d ≠ 0 := mt signedValue_eq_zero.1 hzero
  exact ⟨fun h => hd (congrArg Int32.toInt h),
    (representable_tdiv_iff (signedValue_representable n) hd).2 hcorner⟩

/-- The host has no error in a signed division. -/
theorem divSigned?_eq (n d : UInt32) : divSigned? n d = some (divSigned n d) := by
  rw [divSigned?, divSigned]
  by_cases hzero : d = 0
  · rw [if_pos (beq_iff_eq.2 hzero), if_pos (beq_iff_eq.2 hzero)]
  rw [if_neg (mt beq_iff_eq.1 hzero), if_neg (mt beq_iff_eq.1 hzero)]
  by_cases hcorner : (n == 0x80000000 && d == 0xFFFFFFFF) = true
  · rw [if_pos hcorner, if_pos hcorner]
  · have hwithin := quotient_within hzero (mt corner_iff.2 hcorner)
    rw [if_neg hcorner, if_neg hcorner, Host.remSigned?, Host.divSigned?, if_pos hwithin,
      if_pos hwithin]
    rfl

/-- **Signed division** leaves the quotient and the remainder. -/
theorem isSignedQuotient_divSigned (n d : UInt32) : IsSignedQuotient n d (divSigned n d) := by
  rw [IsSignedQuotient, divSigned]
  by_cases hzero : d = 0
  · rw [if_pos (signedValue_eq_zero.2 hzero), if_pos (beq_iff_eq.2 hzero)]
    exact ⟨rfl, by simp only [isNegative_iff]⟩
  rw [if_neg (mt signedValue_eq_zero.1 hzero), if_neg (mt beq_iff_eq.1 hzero)]
  by_cases hcorner : signedValue n = -0x80000000 ∧ signedValue d = -1
  · rw [if_pos hcorner, if_pos (corner_iff.2 hcorner)]
    exact ⟨rfl, rfl⟩
  · rw [if_neg hcorner, if_neg (mt corner_iff.1 hcorner)]
    have hquotient : signedValue (n.toInt32 / d.toInt32).toUInt32 =
        (signedValue n).tdiv (signedValue d) :=
      (Int32.toInt_div _ _).trans (bmod_of_representable (quotient_within hzero hcorner).2)
    have hremainder : signedValue (n.toInt32 % d.toInt32).toUInt32 =
        (signedValue n).tmod (signedValue d) := Int32.toInt_mod _ _
    rw [hquotient, hremainder]
    exact truncates_tdiv_tmod _ (mt signedValue_eq_zero.1 hzero)

/-- -7 by 2 is -3, and -1 is left. -/
example : divSigned 0xFFFFFFF9 2 = ⟨0xFFFFFFFF, 0xFFFFFFFD⟩ := by decide

/-- The host has no error in an unsigned division. -/
theorem divUnsigned?_eq (n d : UInt32) : divUnsigned? n d = some (divUnsigned n d) := by
  rw [divUnsigned?, divUnsigned]
  by_cases hzero : d = 0
  · rw [if_pos (beq_iff_eq.2 hzero), if_pos (beq_iff_eq.2 hzero)]
  · rw [if_neg (mt beq_iff_eq.1 hzero), if_neg (mt beq_iff_eq.1 hzero), Host.remUnsigned?,
      Host.divUnsigned?, if_pos hzero, if_pos hzero]
    rfl

/-- **Unsigned division** leaves the quotient and the remainder. -/
theorem isUnsignedQuotient_divUnsigned (n d : UInt32) :
    IsUnsignedQuotient n d (divUnsigned n d) := by
  rw [IsUnsignedQuotient, divUnsigned]
  have hnat : d.toNat = 0 ↔ d = 0 := UInt32.toNat_inj (b := 0)
  by_cases hzero : d = 0
  · rw [if_pos (hnat.2 hzero), if_pos (beq_iff_eq.2 hzero)]
    exact ⟨rfl, rfl⟩
  · rw [if_neg (mt hnat.1 hzero), if_neg (mt beq_iff_eq.1 hzero), UInt32.toNat_div,
      UInt32.toNat_mod]
    exact truncates_tdiv_tmod _ (mt Int.natCast_eq_zero.1 (mt hnat.1 hzero))

end HiLo

namespace Cpu

/-! ## Instructions -/

variable {β : Type} [Bus β] (cpu : Cpu) (bus : β) (i : Instruction)

/-- An instruction writes a signed number to register `r`, or raises an overflow if 32 bits cannot
hold it. -/
structure Sums (r : Reg) (z : Int) : Prop where
  raises : cpu.effect i = .raise { cause := .overflow } ↔ ¬Representable z
  keeps : ¬Representable z →
    cpu.perform bus (cpu.effect i) = .done (cpu.trap { cause := .overflow }, bus) ∧
      ∀ q, (cpu.trap { cause := .overflow }).reg q = cpu.reg q
  writes : Representable z → ∃ value, signedValue value = z ∧
    cpu.perform bus (cpu.effect i) = .done (cpu.setReg r value, bus) ∧
      ∀ q, (cpu.setReg r value).reg q = if q = r ∧ r.val ≠ 0 then value else cpu.reg q

/-- An instruction leaves a pair in HI:LO and changes nothing else; the pair is computed without an
error of the host and has a property. -/
def Leaves (computed : Option HiLo) (property : HiLo → Prop) : Prop :=
  ∃ pair, computed = some pair ∧
    cpu.perform bus (cpu.effect i) = .done ({ cpu with hiLo := pair }, bus) ∧ property pair

/-- What exact arithmetic says of an instruction. -/
def Exact : Prop :=
  match i.operation with
  | .add => cpu.Sums bus i i.rd (signedValue (cpu.rs i) + signedValue (cpu.rt i))
  | .addi => cpu.Sums bus i i.rt (signedValue (cpu.rs i) + i.immediate)
  | .sub => cpu.Sums bus i i.rd (signedValue (cpu.rs i) - signedValue (cpu.rt i))
  | .mult => cpu.Leaves bus i (HiLo.mulSigned? (cpu.rs i) (cpu.rt i)) fun pair =>
      pair.signed = signedValue (cpu.rs i) * signedValue (cpu.rt i)
  | .multu => cpu.Leaves bus i (HiLo.mulUnsigned? (cpu.rs i) (cpu.rt i)) fun pair =>
      pair.unsigned = (cpu.rs i).toNat * (cpu.rt i).toNat
  | .div => cpu.Leaves bus i (HiLo.divSigned? (cpu.rs i) (cpu.rt i))
      (HiLo.IsSignedQuotient (cpu.rs i) (cpu.rt i))
  | .divu => cpu.Leaves bus i (HiLo.divUnsigned? (cpu.rs i) (cpu.rt i))
      (HiLo.IsUnsignedQuotient (cpu.rs i) (cpu.rt i))
  | _ => True

variable {cpu i}

/-- A result that is missing exactly when it does not fit, and otherwise exact, makes a sum. -/
theorem sums_writeOrTrap {r : Reg} {result : Option UInt32} {z : Int}
    (heffect : cpu.effect i = writeOrTrap r result) (hnone : result = none ↔ ¬Representable z)
    (hsome : ∀ {value}, result = some value → signedValue value = z) :
    cpu.Sums bus i r z := by
  cases result with
  | none =>
    have hunfit := hnone.1 rfl
    exact {
      raises := iff_of_true heffect hunfit
      keeps := fun _ => ⟨by rw [heffect]; rfl, fun _ => rfl⟩
      writes := fun hfits => absurd hfits hunfit }
  | some value =>
    have hfits : Representable z := Decidable.not_not.1 fun h => nomatch hnone.2 h
    have hwrites : cpu.effect i = .write r value := heffect
    exact {
      raises := iff_of_false (hwrites ▸ nofun) (not_not_intro hfits)
      keeps := fun hunfit => absurd hfits hunfit
      writes := fun _ => ⟨value, hsome rfl, by rw [hwrites]; rfl,
        fun q => cpu.reg_setReg r q value⟩ }

/-- A pair that is computed without an error is left. -/
theorem leaves_setHiLo {pair : HiLo} {computed : Option HiLo} {property : HiLo → Prop}
    (heffect : cpu.effect i = .setHiLo pair) (hcomputed : computed = some pair)
    (hproperty : property pair) : cpu.Leaves bus i computed property :=
  ⟨pair, hcomputed, by rw [heffect]; rfl, hproperty⟩

variable (cpu i)

/-- **Every instruction** that adds, multiplies or divides is exact. -/
theorem perform_exact : cpu.Exact bus i := by
  unfold Exact
  cases h : i.operation with
  | add =>
    exact sums_writeOrTrap bus (by rw [effect, h]) (add?_eq_none_iff _ _) signedValue_of_add?
  | addi =>
    rw [← signedValue_immSigned]
    exact sums_writeOrTrap bus (by rw [effect, h]) (add?_eq_none_iff _ _) signedValue_of_add?
  | sub =>
    exact sums_writeOrTrap bus (by rw [effect, h]) (sub?_eq_none_iff _ _) signedValue_of_sub?
  | mult =>
    exact leaves_setHiLo bus (by rw [effect, h]) (HiLo.mulSigned?_eq _ _)
      (HiLo.signed_mulSigned _ _)
  | multu =>
    exact leaves_setHiLo bus (by rw [effect, h]) (HiLo.mulUnsigned?_eq _ _)
      (HiLo.unsigned_mulUnsigned _ _)
  | div =>
    exact leaves_setHiLo bus (by rw [effect, h]) (HiLo.divSigned?_eq _ _)
      (HiLo.isSignedQuotient_divSigned _ _)
  | divu =>
    exact leaves_setHiLo bus (by rw [effect, h]) (HiLo.divUnsigned?_eq _ _)
      (HiLo.isUnsignedQuotient_divUnsigned _ _)
  | _ => trivial

/-- -2^31 in the first register that the words below name, and -1 in the second. -/
def cornered : Cpu :=
  let operands : Instruction := ⟨0x00820000⟩
  (Cpu.reset.setReg operands.rs 0x80000000).setReg operands.rt 0xFFFFFFFF

/-- The sum of the two, and the first less 1, are too low; the second less the first just fits.  The
product is 2^31, or nearly 2^63 without signs.  The quotient does not fit, and stays as low as the
first; by zero it is 1. -/
theorem perform_exact_cornered :
    let run : UInt32 → Outcome (Cpu × Memory) := fun word =>
      cornered.perform Memory.blank (cornered.effect ⟨word⟩)
    let overflow : Outcome (Cpu × Memory) :=
      .done (cornered.trap { cause := .overflow }, Memory.blank)
    let leave : HiLo → Outcome (Cpu × Memory) := fun pair =>
      .done ({ cornered with hiLo := pair }, Memory.blank)
    -- add and addi, then sub
    run 0x00821820 = overflow ∧ run 0x2083FFFF = overflow ∧
    (∃ value, signedValue value = 0x7FFFFFFF ∧
      run 0x00441822 = .done (cornered.setReg 3 value, Memory.blank)) ∧
    -- mult and multu
    (∃ pair, run 0x00820018 = leave pair ∧ pair.signed = 0x80000000) ∧
    (∃ pair, run 0x00820019 = leave pair ∧ pair.unsigned = 0x80000000 * 0xFFFFFFFF) ∧
    -- div, div by register 0, and divu the other way round
    run 0x0082001A = leave ⟨0, 0x80000000⟩ ∧ run 0x0080001A = leave ⟨0x80000000, 1⟩ ∧
    (∃ pair, run 0x0044001B = leave pair ∧
      Truncates 0xFFFFFFFF 0x80000000 pair.lo.toNat pair.hi.toNat) := by
  intro run overflow leave
  have hadd : cornered.Sums Memory.blank ⟨0x00821820⟩ 3 (-0x80000000 + -1) :=
    perform_exact cornered Memory.blank ⟨0x00821820⟩
  have haddi : cornered.Sums Memory.blank ⟨0x2083FFFF⟩ 3 (-0x80000000 + -1) :=
    perform_exact cornered Memory.blank ⟨0x2083FFFF⟩
  have hsub : cornered.Sums Memory.blank ⟨0x00441822⟩ 3 (-1 - -0x80000000) :=
    perform_exact cornered Memory.blank ⟨0x00441822⟩
  obtain ⟨value, hvalue, hwrites, -⟩ := hsub.writes (by decide)
  obtain ⟨product, -, hmult, hproduct⟩ := perform_exact cornered Memory.blank ⟨0x00820018⟩
  obtain ⟨unsigned, -, hmultu, hunsigned⟩ := perform_exact cornered Memory.blank ⟨0x00820019⟩
  obtain ⟨⟨hi, lo⟩, -, hdiv, rfl, rfl⟩ := perform_exact cornered Memory.blank ⟨0x0082001A⟩
  obtain ⟨⟨hi, lo⟩, -, hzero, rfl, rfl⟩ := perform_exact cornered Memory.blank ⟨0x0080001A⟩
  obtain ⟨pair, -, hdivu, hpair⟩ := perform_exact cornered Memory.blank ⟨0x0044001B⟩
  exact ⟨(hadd.keeps (by decide)).1, (haddi.keeps (by decide)).1, ⟨value, hvalue, hwrites⟩,
    ⟨product, hmult, hproduct⟩, ⟨unsigned, hmultu, hunsigned⟩, hdiv, hzero, pair, hdivu, hpair⟩

end Cpu

end PlayStation

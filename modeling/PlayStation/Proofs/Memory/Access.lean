/-
  Which accesses MEMORY answers.

  An access is answered when its address is a multiple of its width and something lies there.  What
  lies where never changes, so neither does the answer to that: an address is vacant for good
  (`Memory.vacant`).
-/
import PlayStation.Memory.Basic

namespace PlayStation

/-- Alignment, as division without remainder. -/
theorem AccessWidth.isAligned_eq (width : AccessWidth) (address : UInt32) :
    width.isAligned address = decide (address.toNat % width.bytes = 0) := by
  rw [Bool.eq_iff_iff, decide_eq_true_iff]
  cases width with
  | byte => exact ⟨fun _ => Nat.mod_one _, fun _ => rfl⟩
  | half =>
    show (address &&& 1 == 0) = true ↔ address.toNat % 2 = 0
    rw [beq_iff_eq, ← UInt32.toNat_inj, UInt32.toNat_and, ← Nat.and_two_pow_sub_one_eq_mod _ 1]
    rfl
  | word =>
    show (address &&& 3 == 0) = true ↔ address.toNat % 4 = 0
    rw [beq_iff_eq, ← UInt32.toNat_inj, UInt32.toNat_and, ← Nat.and_two_pow_sub_one_eq_mod _ 2]
    rfl

namespace Memory

/-- Nothing lies at an address. -/
def vacant (address : UInt32) : Bool := Region.of (physical address) == .unmapped

variable {width : AccessWidth} {address : UInt32}

theorem read_of_vacant (m : Memory) (haligned : width.isAligned address = true)
    (h : vacant address = true) : m.read width address = .error (.unmapped address) := by
  have hregion : Region.of (physical address) = .unmapped := eq_of_beq h
  simp only [read, haligned, hregion]
  rfl

theorem read_of_not_vacant (m : Memory) (haligned : width.isAligned address = true)
    (h : vacant address = false) : ∃ value, m.read width address = .ok value := by
  have hregion : Region.of (physical address) ≠ .unmapped := ne_of_beq_false h
  simp only [read, haligned]
  cases hcase : Region.of (physical address) with
  | unmapped => exact absurd hcase hregion
  | _ => exact ⟨_, rfl⟩

theorem write_of_vacant (m : Memory) (value : UInt32) (haligned : width.isAligned address = true)
    (h : vacant address = true) :
    m.write width address value = .stopped (.unmapped address) m := by
  have hregion : Region.of (physical address) = .unmapped := eq_of_beq h
  simp only [write, haligned, hregion]
  rfl

theorem write_of_not_vacant (m : Memory) (value : UInt32)
    (haligned : width.isAligned address = true) (h : vacant address = false) :
    ∃ m', m.write width address value = .done m' := by
  have hregion : Region.of (physical address) ≠ .unmapped := ne_of_beq_false h
  simp only [write, haligned]
  cases hcase : Region.of (physical address) with
  | unmapped => exact absurd hcase hregion
  | _ => exact ⟨_, rfl⟩

end Memory

end PlayStation

/-
  PLACES in RAM, counted from a base address.

  A transfer goes through RAM word by word, up or down, and around the ends of the 2 MB.  The
  address it has after `k` words is `place base step k`.  Going on by one word leads from one place
  to the next (`place_succ`), and less than a whole turn apart places are different words
  (`place_ne`).
-/
import PlayStation.Dma.Transfer
import PlayStation.Proofs.Memory.Words

namespace PlayStation.Dma

open Memory (wordOffset wordOffset_eq)

/-- The address `k` words behind a base address, `step` bytes each, in 2 MB of RAM. -/
def place (base step : UInt32) (k : Nat) : UInt32 :=
  (base + step * UInt32.ofNat k) &&& ramWordMask

/-- The step from one word to the next. -/
def up : UInt32 := 4

/-- The step from one word to the one below. -/
def down : UInt32 := 0xFFFFFFFC

/-! ## Masked addresses -/

/-- The mask leaves a word offset. -/
theorem toNat_masked (address : UInt32) : (address &&& ramWordMask).toNat = wordOffset address :=
  rfl

theorem masked_masked (address : UInt32) :
    (address &&& ramWordMask) &&& ramWordMask = address &&& ramWordMask := by
  rw [UInt32.and_assoc, UInt32.and_self]

/-- Words are the same when their masked addresses are. -/
theorem wordOffset_inj {a b : UInt32} :
    wordOffset a = wordOffset b ↔ a &&& ramWordMask = b &&& ramWordMask :=
  UInt32.toNat_inj

/-- Before a whole number of words is added, an address may be masked or not. -/
theorem masked_add (address : UInt32) {distance : UInt32} (h : distance.toNat % 4 = 0) :
    ((address &&& ramWordMask) + distance) &&& ramWordMask =
      (address + distance) &&& ramWordMask := by
  rw [← wordOffset_inj, wordOffset_eq, wordOffset_eq, UInt32.toNat_add, UInt32.toNat_add,
    toNat_masked, wordOffset_eq]
  omega

/-! ## Places -/

variable {base step : UInt32}

theorem masked_place (k : Nat) : place base step k &&& ramWordMask = place base step k :=
  masked_masked _

theorem place_zero : place base step 0 = base &&& ramWordMask := by
  show (base + step * 0) &&& ramWordMask = _
  rw [UInt32.mul_zero, UInt32.add_zero]

/-- One word further. -/
theorem place_succ (h : step.toNat % 4 = 0) (k : Nat) :
    (place base step k + step) &&& ramWordMask = place base step (k + 1) := by
  rw [place, masked_add _ h, place, UInt32.ofNat_add, UInt32.mul_add, UInt32.add_assoc]
  congr 3
  exact (UInt32.mul_one step).symm

/-- The places behind the first one, counted from there. -/
theorem place_place (h : step.toNat % 4 = 0) (k : Nat) :
    place (place base step 1) step k = place base step (k + 1) := by
  induction k with
  | zero => rw [place_zero, masked_place]
  | succ k ih => rw [← place_succ h, ih, place_succ h]

/-- The base may be masked or not. -/
theorem place_masked (h : step.toNat % 4 = 0) (k : Nat) :
    place (base &&& ramWordMask) step k = place base step k := by
  induction k with
  | zero => rw [place_zero, place_zero, masked_masked]
  | succ k ih => rw [← place_succ h, ih, place_succ h]

/-- A place, as a number. -/
theorem toNat_place (k : Nat) :
    (place base step k).toNat = 4 * ((base.toNat + step.toNat * k) / 4 % 0x80000) := by
  rw [place, toNat_masked, wordOffset_eq, UInt32.toNat_add, UInt32.toNat_mul,
    UInt32.toNat_ofNat', Nat.mul_mod_mod]
  omega

/-- Going up, places are the base and the distance, modulo 2 MB. -/
theorem toNat_place_up (k : Nat) :
    (place base up k).toNat = (wordOffset base + 4 * k) % 0x200000 := by
  rw [toNat_place, wordOffset_eq]
  show 4 * ((base.toNat + 4 * k) / 4 % 0x80000) = _
  omega

/-- Going down, places and the distance are the base, modulo 2 MB. -/
theorem toNat_place_down (k : Nat) :
    ((place base down k).toNat + 4 * k) % 0x200000 = wordOffset base := by
  rw [toNat_place, wordOffset_eq]
  show (4 * ((base.toNat + 0xFFFFFFFC * k) / 4 % 0x80000) + 4 * k) % 0x200000 = _
  omega

theorem toNat_place_lt (k : Nat) : (place base step k).toNat < 0x200000 := by
  rw [toNat_place]
  omega

/-- **Less than a turn apart**, places are different. -/
theorem place_ne (hstep : step = up ∨ step = down) {i j : Nat} (hlt : i < j)
    (hturn : j < i + 0x80000) : place base step i ≠ place base step j := by
  intro heq
  rcases hstep with rfl | rfl
  · have hplaces : ∀ k, (place base up k).toNat = (wordOffset base + 4 * k) % 0x200000 :=
      toNat_place_up
    have hi := hplaces i
    have hj := hplaces j
    rw [heq] at hi
    omega
  · have hplaces : ∀ k, ((place base down k).toNat + 4 * k) % 0x200000 = wordOffset base :=
      toNat_place_down
    have hi := hplaces i
    have hj := hplaces j
    rw [heq] at hi
    omega

end PlayStation.Dma

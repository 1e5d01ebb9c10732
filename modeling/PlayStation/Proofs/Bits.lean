/-
  Words BIT BY BIT.

  A word is the sequence of its 32 flags: two words with the same flags are the same (`ext_bit`),
  and every way in which registers are put together (masks, shifts, `merge`, `withBit`) is one rule
  about a single flag.  A statement about a packed register is proved by asking for each place what
  the flag there is; where the place is met by a constant mask, 32 cases settle it
  (`forall_place`).
-/
import PlayStation.Word

namespace PlayStation.Word

/-- The flags of a word are the bits of its vector. -/
theorem bit_eq_getLsbD (w n : UInt32) : bit w n = w.toBitVec.getLsbD (n.toNat % 32) := by
  have h : ((w >>> n) &&& 1).toNat = 1 &&& w.toNat >>> (n.toNat % 32) := by
    rw [UInt32.toNat_and, UInt32.toNat_shiftRight, Nat.and_comm]
    rfl
  show ((w >>> n) &&& 1 != 0) = (1 &&& w.toNat >>> (n.toNat % 32) != 0)
  rw [← h, Bool.eq_iff_iff, bne_iff_ne, bne_iff_ne, ne_eq, ne_eq, ← UInt32.toNat_inj]
  rfl

/-- Words with the same flags are the same. -/
theorem ext_bit {w v : UInt32} (h : ∀ n : UInt32, n < 32 → bit w n = bit v n) : w = v := by
  apply UInt32.toBitVec_inj.1
  apply BitVec.eq_of_getLsbD_eq
  intro i hi
  have hsize : i < UInt32.size := Nat.lt_trans hi (by decide)
  have hplace : (UInt32.ofNat i).toNat = i := UInt32.toNat_ofNat_of_lt' hsize
  have hbit := h (UInt32.ofNat i) (by rw [UInt32.lt_iff_toNat_lt, hplace]; exact hi)
  rwa [bit_eq_getLsbD, bit_eq_getLsbD, hplace, Nat.mod_eq_of_lt hi] at hbit

/-- What holds at each of the 32 places holds at every place. -/
theorem forall_place {P : UInt32 → Prop} (h : ∀ i : Fin 32, P (UInt32.ofNat i.val)) :
    ∀ n < 32, P n := by
  intro n hn
  have hplace := h ⟨n.toNat, UInt32.lt_iff_toNat_lt.1 hn⟩
  rwa [UInt32.ofNat_toNat] at hplace

/-! ## One rule for each operation -/

theorem bit_and (w v n : UInt32) : bit (w &&& v) n = (bit w n && bit v n) := by
  simp only [bit_eq_getLsbD, UInt32.toBitVec_and, BitVec.getLsbD_and]

theorem bit_or (w v n : UInt32) : bit (w ||| v) n = (bit w n || bit v n) := by
  simp only [bit_eq_getLsbD, UInt32.toBitVec_or, BitVec.getLsbD_or]

theorem bit_not (w n : UInt32) : bit (~~~w) n = !bit w n := by
  simp only [bit_eq_getLsbD, UInt32.toBitVec_not, BitVec.getLsbD_not]
  rw [decide_eq_true (Nat.mod_lt _ (by decide)), Bool.true_and]

/-- A shift to the left moves flags up and brings zeros in. -/
theorem bit_shiftLeft (w : UInt32) {k n : UInt32} (hk : k < 32) (hn : n < 32) :
    bit (w <<< k) n = (decide (k ≤ n) && bit w (n - k)) := by
  have hk' : k.toNat < 32 := UInt32.lt_iff_toNat_lt.1 hk
  have hn' : n.toNat < 32 := UInt32.lt_iff_toNat_lt.1 hn
  have hshift : (k.toBitVec % 32).toNat = k.toNat := Nat.mod_eq_of_lt hk'
  rw [bit_eq_getLsbD, UInt32.toBitVec_shiftLeft, Nat.mod_eq_of_lt hn', BitVec.getLsbD_shiftLeft',
    hshift]
  by_cases hle : k ≤ n
  · have hle' : k.toNat ≤ n.toNat := UInt32.le_iff_toNat_le.1 hle
    rw [bit_eq_getLsbD, UInt32.toNat_sub_of_le _ _ hle, Nat.mod_eq_of_lt (by omega)]
    simp [hn', hle, Nat.not_lt.2 hle']
  · have hlt : n.toNat < k.toNat := by
      rw [UInt32.le_iff_toNat_le] at hle
      omega
    simp [hle, hlt]

/-- A shift to the right moves flags down and brings zeros in. -/
theorem bit_shiftRight (w : UInt32) {k n : UInt32} (hk : k < 32) (hn : n < 32) :
    bit (w >>> k) n = (decide (n + k < 32) && bit w (n + k)) := by
  have hk' : k.toNat < 32 := UInt32.lt_iff_toNat_lt.1 hk
  have hn' : n.toNat < 32 := UInt32.lt_iff_toNat_lt.1 hn
  have hshift : (k.toBitVec % 32).toNat = k.toNat := Nat.mod_eq_of_lt hk'
  have hsum : (n + k).toNat = n.toNat + k.toNat := by
    rw [UInt32.toNat_add]
    omega
  rw [bit_eq_getLsbD, UInt32.toBitVec_shiftRight, Nat.mod_eq_of_lt hn',
    BitVec.ushiftRight_eq', BitVec.getLsbD_ushiftRight, hshift, Nat.add_comm k.toNat]
  by_cases hlt : n + k < 32
  · have hlt' : n.toNat + k.toNat < 32 := by
      rw [← hsum]
      exact UInt32.lt_iff_toNat_lt.1 hlt
    rw [bit_eq_getLsbD, hsum, Nat.mod_eq_of_lt hlt', decide_eq_true hlt, Bool.true_and]
  · have hge : 32 ≤ n.toNat + k.toNat := by
      rw [← hsum]
      exact UInt32.le_iff_toNat_le.1 (UInt32.not_lt.1 hlt)
    rw [decide_eq_false hlt, Bool.false_and]
    exact BitVec.getLsbD_of_ge _ _ hge

/-- Only the flag of its own place is set in a shifted one. -/
theorem bit_one_shiftLeft {k n : UInt32} (hk : k < 32) (hn : n < 32) :
    bit (1 <<< k) n = decide (n = k) := by
  have h : ∀ i j : Fin 32, bit (1 <<< UInt32.ofNat i.val) (UInt32.ofNat j.val)
      = decide (UInt32.ofNat j.val = UInt32.ofNat i.val) := by decide +kernel
  refine forall_place (P := fun n => bit (1 <<< k) n = decide (n = k)) (fun j => ?_) n hn
  exact forall_place (P := fun k => bit (1 <<< k) _ = decide (_ = k)) (fun i => h i j) k hk

/-- A merged word takes the flags of the mask from the new value. -/
theorem bit_merge (w mask v n : UInt32) :
    bit (merge w mask v) n = if bit mask n then bit v n else bit w n := by
  rw [merge, bit_or, bit_and, bit_and, bit_not]
  cases bit mask n <;> simp

/-- Writing a flag leaves the others alone. -/
theorem bit_withBit (w : UInt32) {k n : UInt32} (value : Bool) (hk : k < 32) (hn : n < 32) :
    bit (withBit w k value) n = if n = k then value else bit w n := by
  cases value
  · rw [withBit, if_neg (by decide), bit_and, bit_not, bit_one_shiftLeft hk hn]
    by_cases h : n = k <;> simp [h]
  · rw [withBit, if_pos rfl, bit_or, bit_one_shiftLeft hk hn]
    by_cases h : n = k <;> simp [h]

/-- The lower half of a word has its flags. -/
theorem bit_toUInt16 (w : UInt32) {n : UInt32} (hn : n < 16) :
    bit w.toUInt16.toUInt32 n = bit w n := by
  have hplace : n.toNat < 16 := UInt32.lt_iff_toNat_lt.1 hn
  rw [bit_eq_getLsbD, bit_eq_getLsbD, Nat.mod_eq_of_lt (by omega)]
  show ((w.toBitVec.setWidth 16).setWidth 32).getLsbD n.toNat = _
  rw [BitVec.getLsbD_setWidth, BitVec.getLsbD_setWidth]
  simp [hplace]
  omega

theorem bit_zero {n : UInt32} (hn : n < 32) : bit 0 n = false :=
  forall_place (P := fun n => bit 0 n = false) (by decide) n hn

/-- A word without flags outside of a mask. -/
theorem and_of_and_not {w mask : UInt32} (h : w &&& ~~~mask = 0) : w &&& mask = w := by
  apply ext_bit
  intro n hn
  have hno := congrArg (bit · n) h
  simp only [bit_and, bit_not, bit_zero hn] at hno
  rw [bit_and]
  cases hw : bit w n with
  | false => rfl
  | true => rwa [hw, Bool.true_and, Bool.not_eq_false'] at hno

/-! ## Low bits -/

/-- A mask of low ones takes a remainder. -/
theorem toNat_and_ones (w : UInt32) {ones : UInt32} {n : Nat}
    (hones : ones.toNat = (1 <<< n) - 1) : (w &&& ones).toNat = w.toNat % (1 <<< n) := by
  rw [Nat.one_shiftLeft] at hones
  rw [Nat.one_shiftLeft, UInt32.toNat_and, hones, Nat.and_two_pow_sub_one_eq_mod]

/-- Put above a number that leaves it room, another one is added with the weight of its place. -/
theorem toNat_or_shiftLeft {low high s : UInt32} {weight : Nat} (hs : s.toNat < 32)
    (hweight : 1 <<< s.toNat = weight) (hlow : low.toNat < weight)
    (hhigh : high.toNat * weight < UInt32.size) :
    (low ||| (high <<< s)).toNat = low.toNat + high.toNat * weight := by
  rw [Nat.one_shiftLeft] at hweight
  rw [← hweight] at hlow hhigh ⊢
  have hshift : (high <<< s).toNat = high.toNat <<< s.toNat := by
    rw [UInt32.toNat_shiftLeft, Nat.mod_eq_of_lt hs, Nat.shiftLeft_eq]
    exact Nat.mod_eq_of_lt hhigh
  rw [UInt32.toNat_or, hshift, Nat.or_comm, ← Nat.shiftLeft_add_eq_or_of_lt hlow,
    Nat.shiftLeft_eq, Nat.add_comm]

/-! ## Fields of a merged word -/

/-- A mask that covers a field leaves it alone. -/
theorem field_and_of_covers (w : UInt32) {mask : UInt32} {start width : Nat}
    (hcovers : field mask start width = (1 <<< width) - 1) :
    field (w &&& mask) start width = field w start width := by
  rw [field, Nat.one_shiftLeft] at hcovers
  rw [field, field, Nat.one_shiftLeft, UInt32.toNat_and, Nat.shiftRight_and_distrib,
    Nat.and_mod_two_pow, hcovers, Nat.and_two_pow_sub_one_eq_mod, Nat.mod_mod]

/-- A mask that misses a field clears it. -/
theorem field_and_of_misses (w : UInt32) {mask : UInt32} {start width : Nat}
    (hmisses : field mask start width = 0) : field (w &&& mask) start width = 0 := by
  rw [field, Nat.one_shiftLeft] at hmisses
  rw [field, Nat.one_shiftLeft, UInt32.toNat_and, Nat.shiftRight_and_distrib,
    Nat.and_mod_two_pow, hmisses, Nat.and_zero]

/-- A merge leaves the fields outside of the mask alone. -/
theorem field_merge_of_misses (w v : UInt32) {mask : UInt32} {start width : Nat}
    (hmisses : field mask start width = 0)
    (hcovers : field (~~~mask) start width = (1 <<< width) - 1) :
    field (merge w mask v) start width = field w start width := by
  have hold := field_and_of_covers w hcovers
  have hnew := field_and_of_misses v hmisses
  rw [field, Nat.one_shiftLeft] at hold hnew
  rw [field, Nat.one_shiftLeft, merge, UInt32.toNat_or, Nat.shiftRight_or_distrib,
    Nat.or_mod_two_pow, hold, hnew, Nat.or_zero]

/-- Writing a flag is merging in a word of all ones or of all zeros. -/
theorem withBit_eq_merge (w k : UInt32) (value : Bool) :
    withBit w k value = merge w (1 <<< k) (if value then 0xFFFFFFFF else 0) := by
  apply ext_bit
  intro n hn
  cases value
  · rw [withBit, if_neg (by decide), merge, if_neg (by decide), UInt32.zero_and, UInt32.or_zero]
  · have hones : bit 0xFFFFFFFF n = true :=
      forall_place (P := fun n => bit 0xFFFFFFFF n = true) (by decide) n hn
    rw [bit_merge, withBit, if_pos rfl, if_pos rfl, bit_or, hones]
    cases bit (1 <<< k) n <;> simp

/-- A field that was merged in reads back. -/
theorem read_merge_self (w v : UInt32) {ones start : UInt32} (hstart : start < 32)
    (hfit : (ones <<< start) >>> start = ones) :
    (merge w (ones <<< start) (v <<< start) >>> start) &&& ones = v &&& ones := by
  apply ext_bit
  intro n hn
  have hones := congrArg (bit · n) hfit
  simp only [bit_shiftRight _ hstart hn] at hones
  rw [bit_and, bit_and, bit_shiftRight _ hstart hn, bit_merge]
  by_cases hlt : n + start < 32
  · -- the place is one of the field, moved up
    have hback : n + start - start = n := UInt32.add_sub_cancel n start
    have hle : start ≤ n + start := by
      have hstart' : start.toNat < 32 := UInt32.lt_iff_toNat_lt.1 hstart
      have hn' : n.toNat < 32 := UInt32.lt_iff_toNat_lt.1 hn
      rw [UInt32.le_iff_toNat_le, UInt32.toNat_add]
      omega
    rw [decide_eq_true hlt, Bool.true_and] at hones ⊢
    rw [hones, bit_shiftLeft _ hstart hlt, hback, decide_eq_true hle, Bool.true_and]
    cases bit ones n <;> simp
  · -- it would lie outside of the word, where the field has no place
    rw [decide_eq_false hlt, Bool.false_and] at hones ⊢
    rw [← hones, Bool.and_false, Bool.and_false]

/-- A field outside the mask is left alone. -/
theorem read_merge_of_disjoint (w v : UInt32) {mask ones start : UInt32} (hstart : start < 32)
    (hdisjoint : (mask >>> start) &&& ones = 0) :
    (merge w mask v >>> start) &&& ones = (w >>> start) &&& ones := by
  apply ext_bit
  intro n hn
  have hno := congrArg (bit · n) hdisjoint
  simp only [bit_and, bit_shiftRight _ hstart hn, bit_zero hn] at hno
  rw [bit_and, bit_and, bit_shiftRight _ hstart hn, bit_shiftRight _ hstart hn, bit_merge]
  by_cases hmask : bit mask (n + start) = true
  · rw [hmask, Bool.and_true] at hno
    rw [Bool.and_right_comm, hno, Bool.and_right_comm, hno, Bool.false_and, Bool.false_and]
  · rw [if_neg hmask]

end PlayStation.Word

/-
  RAM as a store of WORDS.

  DMA sees RAM a word at a time.  Two addresses name the same word when they have the same word
  offset (`Memory.wordOffset`), that is, when they agree in bits 2 to 20.  Then two laws say all
  there is to it: a word that was stored is there (`ramWord_setRamWord_self`), and the words at
  other offsets are what they were (`ramWord_setRamWord_of_ne`).

  The processor sees the same words at the aligned addresses that lie in RAM (`read_word_ram`,
  `write_word_ram`).

  The bytes below: the four bytes of a word make the word again (`bytes_of_word`), and since word
  offsets are multiples of four, different words share no byte.
-/
import PlayStation.Proofs.Bits
import PlayStation.Proofs.Memory.Access

namespace PlayStation

open Word (bit)

/-! ## Single bytes -/

section Bytes

variable {n : Nat}

theorem byteAt_setIfInBounds_self (bytes : Vector UInt8 n) {i : Nat} (h : i < n) (b : UInt8) :
    byteAt (bytes.setIfInBounds i b) i = b.toUInt32 := by
  have hget : (bytes.setIfInBounds i b)[i]? = some b := by
    rw [Vector.getElem?_setIfInBounds_self, if_pos h]
  rw [byteAt, Vector.getD, Array.getD_eq_getD_getElem?, Vector.getElem?_toArray, hget]
  rfl

theorem byteAt_setIfInBounds_of_ne (bytes : Vector UInt8 n) {i j : Nat} (h : i ≠ j) (b : UInt8) :
    byteAt (bytes.setIfInBounds i b) j = byteAt bytes j := by
  simp only [byteAt, Vector.getD, Array.getD_eq_getD_getElem?, Vector.getElem?_toArray,
    Vector.getElem?_setIfInBounds_ne h]

/-- The lowest byte of a word, widened, has the word's lowest eight flags. -/
theorem bit_toUInt8 (w : UInt32) {n : UInt32} (hn : n < 32) :
    bit w.toUInt8.toUInt32 n = (decide (n < 8) && bit w n) := by
  have hn' : n.toNat < 32 := UInt32.lt_iff_toNat_lt.1 hn
  have hlt : decide (n < 8) = decide (n.toNat < 8) := decide_eq_decide.2 UInt32.lt_iff_toNat_lt
  rw [Word.bit_eq_getLsbD, Word.bit_eq_getLsbD, UInt8.toBitVec_toUInt32, UInt32.toBitVec_toUInt8,
    BitVec.getLsbD_setWidth, BitVec.getLsbD_setWidth, Nat.mod_eq_of_lt hn', hlt,
    decide_eq_true hn', Bool.true_and]

/-- A byte of a word, put back where it came from, has the word's flags there and no others. -/
theorem bit_lane (w : UInt32) {s n : UInt32} (hs : s < 32) (hn : n < 32) :
    bit ((w >>> s).toUInt8.toUInt32 <<< s) n = (decide (s ≤ n ∧ n - s < 8) && bit w n) := by
  rw [Word.bit_shiftLeft _ hs hn]
  by_cases hle : s ≤ n
  · have hback : n - s + s = n := UInt32.sub_add_cancel n s
    have hplace : n - s < 32 := by
      have hn' : n.toNat < 32 := UInt32.lt_iff_toNat_lt.1 hn
      rw [UInt32.lt_iff_toNat_lt, UInt32.toNat_sub_of_le _ _ hle]
      exact Nat.lt_of_le_of_lt (Nat.sub_le _ _) hn'
    rw [bit_toUInt8 _ hplace, Word.bit_shiftRight _ hs hplace, hback, decide_eq_true hle,
      decide_eq_true hn, Bool.true_and, Bool.true_and]
    simp [hle]
  · simp [hle]

/-- **The four bytes of a word**, put together again, are the word. -/
theorem bytes_of_word (w : UInt32) :
    (byteOf w 0).toUInt32 ||| ((byteOf w 1).toUInt32 <<< 8) ||| ((byteOf w 2).toUInt32 <<< 16)
      ||| ((byteOf w 3).toUInt32 <<< 24) = w := by
  have hlowest : (byteOf w 0).toUInt32 = (w >>> 0).toUInt8.toUInt32 <<< 0 := by
    rw [UInt32.shiftLeft_zero]
    rfl
  -- every place lies in one of the four lanes
  have hcover : ∀ n : UInt32, n < 32 →
      (decide ((0 : UInt32) ≤ n ∧ n - 0 < 8) || decide ((8 : UInt32) ≤ n ∧ n - 8 < 8)
        || decide ((16 : UInt32) ≤ n ∧ n - 16 < 8) || decide ((24 : UInt32) ≤ n ∧ n - 24 < 8))
        = true :=
    Word.forall_place (by decide)
  apply Word.ext_bit
  intro n hn
  rw [hlowest, Word.bit_or, Word.bit_or, Word.bit_or]
  show (bit ((w >>> 0).toUInt8.toUInt32 <<< 0) n || bit ((w >>> 8).toUInt8.toUInt32 <<< 8) n
    || bit ((w >>> 16).toUInt8.toUInt32 <<< 16) n || bit ((w >>> 24).toUInt8.toUInt32 <<< 24) n) = _
  rw [bit_lane w (by decide) hn, bit_lane w (by decide) hn, bit_lane w (by decide) hn,
    bit_lane w (by decide) hn, ← Bool.and_or_distrib_right, ← Bool.and_or_distrib_right,
    ← Bool.and_or_distrib_right, hcover n hn, Bool.true_and]

/-! ## Words of a byte vector -/

/-- A word that was written is read back. -/
theorem readBytes_writeBytes_self (bytes : Vector UInt8 n) {offset : Nat} (h : offset + 3 < n)
    (value : UInt32) : readBytes (writeBytes bytes offset value .word) offset .word = value := by
  have h0 : byteAt (writeBytes bytes offset value .word) offset = (byteOf value 0).toUInt32 := by
    rw [writeBytes, byteAt_setIfInBounds_of_ne _ (by omega),
      byteAt_setIfInBounds_of_ne _ (by omega), byteAt_setIfInBounds_of_ne _ (by omega),
      byteAt_setIfInBounds_self _ (by omega)]
  have h1 : byteAt (writeBytes bytes offset value .word) (offset + 1) =
      (byteOf value 1).toUInt32 := by
    rw [writeBytes, byteAt_setIfInBounds_of_ne _ (by omega),
      byteAt_setIfInBounds_of_ne _ (by omega), byteAt_setIfInBounds_self _ (by omega)]
  have h2 : byteAt (writeBytes bytes offset value .word) (offset + 2) =
      (byteOf value 2).toUInt32 := by
    rw [writeBytes, byteAt_setIfInBounds_of_ne _ (by omega),
      byteAt_setIfInBounds_self _ (by omega)]
  have h3 : byteAt (writeBytes bytes offset value .word) (offset + 3) =
      (byteOf value 3).toUInt32 := by
    rw [writeBytes, byteAt_setIfInBounds_self _ h]
  rw [readBytes, h0, h1, h2, h3, bytes_of_word]

/-- A byte outside of a word that is written keeps its value. -/
theorem byteAt_writeBytes_of_outside (bytes : Vector UInt8 n) {offset i : Nat}
    (h : i < offset ∨ offset + 3 < i) (value : UInt32) :
    byteAt (writeBytes bytes offset value .word) i = byteAt bytes i := by
  rw [writeBytes, byteAt_setIfInBounds_of_ne _ (by omega),
    byteAt_setIfInBounds_of_ne _ (by omega), byteAt_setIfInBounds_of_ne _ (by omega),
    byteAt_setIfInBounds_of_ne _ (by omega)]

/-- Words that share no byte do not meet. -/
theorem readBytes_writeBytes_of_apart (bytes : Vector UInt8 n) {offset other : Nat}
    (h : other + 3 < offset ∨ offset + 3 < other) (value : UInt32) :
    readBytes (writeBytes bytes offset value .word) other .word = readBytes bytes other .word := by
  rw [readBytes, readBytes, byteAt_writeBytes_of_outside _ (by omega),
    byteAt_writeBytes_of_outside _ (by omega), byteAt_writeBytes_of_outside _ (by omega),
    byteAt_writeBytes_of_outside _ (by omega)]

end Bytes

/-! ## Words of RAM -/

namespace Memory

/-- A word offset is a multiple of four below 2 MB. -/
theorem wordOffset_eq (address : UInt32) :
    wordOffset address = 4 * (address.toNat / 4 % 0x80000) := by
  have hand : wordOffset address = address.toNat &&& 0x1FFFFC := UInt32.toNat_and _ _
  have hdiv : (address.toNat &&& 0x1FFFFC) / 4 = address.toNat / 4 % 0x80000 := by
    rw [Nat.and_div_two_pow (n := 2)]
    exact Nat.and_two_pow_sub_one_eq_mod _ 19
  have hmod : (address.toNat &&& 0x1FFFFC) % 4 = 0 := by
    rw [Nat.and_mod_two_pow (n := 2)]
    exact Nat.and_zero _
  omega

variable (m : Memory)

/-- A word that was stored is there. -/
theorem ramWord_setRamWord_self (address value : UInt32) :
    (m.setRamWord address value).ramWord address = value := by
  apply readBytes_writeBytes_self
  rw [wordOffset_eq, ramSize]
  omega

/-- The words at other offsets are what they were. -/
theorem ramWord_setRamWord_of_ne {address other : UInt32}
    (h : wordOffset address ≠ wordOffset other) (value : UInt32) :
    (m.setRamWord address value).ramWord other = m.ramWord other := by
  apply readBytes_writeBytes_of_apart
  rw [wordOffset_eq, wordOffset_eq] at h ⊢
  omega

theorem ramWord_setRamWord (address other value : UInt32) :
    (m.setRamWord address value).ramWord other =
      if wordOffset address = wordOffset other then value else m.ramWord other := by
  by_cases h : wordOffset address = wordOffset other
  · have hself := m.ramWord_setRamWord_self address value
    rw [if_pos h]
    unfold ramWord at hself ⊢
    rwa [← h]
  · rw [if_neg h]
    exact m.ramWord_setRamWord_of_ne h value

/-- An aligned address in RAM and the DMA address of the same number name the same word. -/
theorem ramOffset_physical {address : UInt32}
    (haligned : AccessWidth.word.isAligned address = true) :
    ramOffset (physical address) = wordOffset address := by
  have hoffset : ramOffset (physical address) = address.toNat % 0x20000000 % 0x200000 := by
    show ((address &&& 0x1FFFFFFF) &&& 0x1FFFFF).toNat = _
    rw [UInt32.toNat_and, UInt32.toNat_and, ← Nat.and_two_pow_sub_one_eq_mod _ 21,
      ← Nat.and_two_pow_sub_one_eq_mod _ 29]
    rfl
  have hmod : address.toNat % 4 = 0 := by
    rw [AccessWidth.isAligned_eq] at haligned
    exact of_decide_eq_true haligned
  rw [hoffset, wordOffset_eq]
  omega

section Processor

variable {address : UInt32} (haligned : AccessWidth.word.isAligned address = true)
  (hram : Region.of (physical address) = .ram)

include haligned hram

/-- The processor reads the word that DMA reads. -/
theorem read_word_ram : m.read .word address = .ok (m.ramWord address) := by
  simp only [read, haligned, hram, ramOffset_physical haligned]
  rfl

/-- The processor writes the word that DMA writes. -/
theorem write_word_ram (value : UInt32) :
    m.write .word address value = .done (m.setRamWord address value) := by
  simp only [write, haligned, hram, ramOffset_physical haligned]
  rfl

end Processor

end Memory

end PlayStation

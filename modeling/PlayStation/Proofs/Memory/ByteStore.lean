/-
  MEMORY as one store of BYTES.

  Memory keeps its bytes in four vectors, and an access goes to one of them.  Software sees a
  single store of bytes, in which a wide access is some narrow ones and different addresses may
  name the same byte.

  1. **Cells** (`cell`): the cell of an address is the address without its segment, and in RAM
     without the image.  A cell of RAM, scratchpad or latch keeps what is written (`isKept`), one
     of the BIOS or of the empty slot is only read, and at the others nothing lies.

  2. **The byte store** (`ByteStore`) answers an access cell by cell, lowest byte first.  It knows
     nothing of vectors and offsets.

  3. **The view** (`Memory.view`): the byte store that a memory shows.  An access that goes to a
     region finds its cells side by side there (`cell_eq`), inside of the vector behind it
     (`offset_lt`).  So a byte is what the view has in its cell (`peek_view`), to write it is to poke
     the cell (`view_setByte`), and an access to memory is the same access to the view
     (`read_view`, `write_view`).

  So a sequence of accesses never tells memory from its view (`replies_view`).  The cache-control
  register alone is no store of bytes, since it is a whole word at any width of the access.
-/
import Mathlib.Data.List.Basic
import Mathlib.Logic.Function.Basic
import Mathlib.Tactic.SplitIfs
import PlayStation.Proofs.Bits
import PlayStation.Proofs.Cpu.Requests
import PlayStation.Proofs.Memory.Access

namespace PlayStation

/-! ## Cells -/

/-- The cell that an address names. -/
def cell (address : Nat) : Nat :=
  let p := address % 0x20000000
  if p < 0x800000 then p % 0x200000 else p

/-- A cell of RAM, scratchpad or latch. -/
def isKept (c : Nat) : Bool :=
  c < 0x200000 || (0x1F800000 ≤ c && c < 0x1F800400) || (0x1F801000 ≤ c && c < 0x1F803000)

/-- A cell of the BIOS. -/
def isBios (c : Nat) : Bool := 0x1FC00000 ≤ c && c < 0x1FC80000

/-- A cell of the empty expansion slot. -/
def isVoid (c : Nat) : Bool := 0x1F000000 ≤ c && c < 0x1F800000

/-- Something lies there. -/
def isOccupied (c : Nat) : Bool := isKept c || isBios c || isVoid c

/-- The cells of an access. -/
def cells (width : AccessWidth) (address : UInt32) : List Nat :=
  (List.range width.bytes).map fun k => cell (address.toNat + k)

/-! ## The byte store -/

/-- The number with some bytes, the lowest first. -/
def littleEndian : List UInt8 → Nat
  | [] => 0
  | b :: bytes => b.toNat + 256 * littleEndian bytes

/-- Byte `k` of a number. -/
def lane (value : UInt32) (k : Nat) : UInt8 := UInt8.ofNat (value.toNat >>> (8 * k))

/-- A store of bytes. -/
structure ByteStore where
  /-- The BIOS image, from its first byte on. -/
  image : Nat → UInt8
  /-- The bytes in the cells that keep what is written. -/
  byte : Nat → UInt8

namespace ByteStore

/-- The byte in a cell. -/
def peek (s : ByteStore) (c : Nat) : UInt8 :=
  if isBios c then s.image (c - 0x1FC00000)
  else if isVoid c then (if c < 0x1F000100 then 0 else 0xFF)
  else s.byte c

/-- Replaces the byte in a cell, if the cell keeps it. -/
def poke (s : ByteStore) (c : Nat) (b : UInt8) : ByteStore :=
  if isKept c then { s with byte := Function.update s.byte c b } else s

/-- Reads cell by cell. -/
def load (width : AccessWidth) (address : UInt32) (s : ByteStore) :
    Except Fault UInt32 × ByteStore :=
  if address.toNat % width.bytes ≠ 0 then (.error (.misaligned address width.bytes), s)
  else if (cells width address).all isOccupied then
    (.ok (UInt32.ofNat (littleEndian ((cells width address).map s.peek))), s)
  else (.error (.unmapped address), s)

/-- Writes cell by cell. -/
def store (width : AccessWidth) (address value : UInt32) (s : ByteStore) : Outcome ByteStore :=
  if address.toNat % width.bytes ≠ 0 then .stopped (.misaligned address width.bytes) s
  else if (cells width address).all isOccupied then
    .done ((List.range width.bytes).foldl
      (fun s k => s.poke (cell (address.toNat + k)) (lane value k)) s)
  else .stopped (.unmapped address) s

instance : Bus ByteStore where
  load := load
  store := store

end ByteStore

/-! ## Bytes of a vector -/

section Bytes

variable {n : Nat}

/-- A byte put above a number that leaves it room. -/
theorem toNat_or_byte {low s : UInt32} {weight : Nat} (b : UInt8) (hs : s.toNat ≤ 24)
    (hweight : 1 <<< s.toNat = weight) (hlow : low.toNat < weight) :
    (low ||| (b.toUInt32 <<< s)).toNat = low.toNat + b.toNat * weight := by
  refine Word.toNat_or_shiftLeft (Nat.lt_of_le_of_lt hs (by decide)) hweight hlow ?_
  rw [← hweight, Nat.one_shiftLeft]
  calc b.toNat * 2 ^ s.toNat < 2 ^ 8 * 2 ^ s.toNat :=
        Nat.mul_lt_mul_of_pos_right b.toNat_lt (Nat.two_pow_pos _)
    _ = 2 ^ (8 + s.toNat) := (Nat.pow_add 2 8 _).symm
    _ ≤ 2 ^ 32 := Nat.pow_le_pow_right (by omega) (by omega)

/-- What is read is the number with the bytes that lie there. -/
theorem readBytes_eq (bytes : Vector UInt8 n) (offset : Nat) (width : AccessWidth) :
    readBytes bytes offset width =
      UInt32.ofNat (littleEndian ((List.range width.bytes).map fun k =>
        bytes.getD (offset + k) 0)) := by
  have hlt : ∀ k, (bytes.getD k 0).toNat < 256 := fun k => UInt8.toNat_lt _
  have hbyte : (readBytes bytes offset .byte).toNat = (bytes.getD offset 0).toNat :=
    UInt8.toNat_toUInt32 _
  have hhalf : (readBytes bytes offset .half).toNat =
      (readBytes bytes offset .byte).toNat + (bytes.getD (offset + 1) 0).toNat * 256 := by
    have h0 := hlt offset
    exact toNat_or_byte _ (by decide) rfl
      (show (readBytes bytes offset .byte).toNat < 256 by omega)
  have hthree : (readBytes bytes offset .half ||| (byteAt bytes (offset + 2) <<< 16)).toNat =
      (readBytes bytes offset .half).toNat + (bytes.getD (offset + 2) 0).toNat * 65536 := by
    have h0 := hlt offset
    have h1 := hlt (offset + 1)
    exact toNat_or_byte _ (by decide) rfl
      (show (readBytes bytes offset .half).toNat < 65536 by omega)
  have hword : (readBytes bytes offset .word).toNat =
      (readBytes bytes offset .half ||| (byteAt bytes (offset + 2) <<< 16)).toNat +
        (bytes.getD (offset + 3) 0).toNat * 16777216 := by
    have h0 := hlt offset
    have h1 := hlt (offset + 1)
    have h2 := hlt (offset + 2)
    refine toNat_or_byte _ (by decide) rfl ?_
    show (readBytes bytes offset .half ||| (byteAt bytes (offset + 2) <<< 16)).toNat < 16777216
    omega
  cases width with
  | byte =>
    rw [← UInt32.ofNat_toNat (x := readBytes bytes offset .byte)]
    congr 1
  | half =>
    rw [← UInt32.ofNat_toNat (x := readBytes bytes offset .half)]
    congr 1
    show _ = (bytes.getD offset 0).toNat + 256 * ((bytes.getD (offset + 1) 0).toNat + 256 * 0)
    omega
  | word =>
    rw [← UInt32.ofNat_toNat (x := readBytes bytes offset .word)]
    congr 1
    show _ = (bytes.getD offset 0).toNat + 256 * ((bytes.getD (offset + 1) 0).toNat +
      256 * ((bytes.getD (offset + 2) 0).toNat + 256 * ((bytes.getD (offset + 3) 0).toNat
        + 256 * 0)))
    omega

theorem getD_setIfInBounds (bytes : Vector UInt8 n) {i : Nat} (hi : i < n) (b : UInt8) (j : Nat) :
    (bytes.setIfInBounds i b).getD j 0 = if j = i then b else bytes.getD j 0 := by
  simp only [Vector.getD, Array.getD_eq_getD_getElem?, Vector.getElem?_toArray]
  split_ifs with hj
  · rw [hj, Vector.getElem?_setIfInBounds_self, if_pos hi]
    rfl
  · rw [Vector.getElem?_setIfInBounds_ne (Ne.symm hj)]

/-- A byte taken out by a shift. -/
theorem byteOf_eq (value : UInt32) {k : Nat} (hk : k < 4) :
    byteOf value (UInt32.ofNat k) = lane value k := by
  have hplace : (8 * UInt32.ofNat k).toNat % 32 = 8 * k := by
    have hk' : (UInt32.ofNat k).toNat = k :=
      UInt32.toNat_ofNat_of_lt' (Nat.lt_trans hk (by decide))
    rw [UInt32.toNat_mul, hk']
    show 8 * k % 2 ^ 32 % 32 = 8 * k
    omega
  rw [byteOf, lane, ← UInt8.toNat_inj, UInt32.toNat_toUInt8, UInt32.toNat_shiftRight, hplace,
    UInt8.toNat_ofNat']

/-- What is written are the bytes of the number, one by one. -/
theorem writeBytes_eq (bytes : Vector UInt8 n) (offset : Nat) (value : UInt32)
    (width : AccessWidth) :
    writeBytes bytes offset value width =
      (List.range width.bytes).foldl
        (fun bytes k => bytes.setIfInBounds (offset + k) (lane value k)) bytes := by
  have h0 : byteOf value 0 = lane value 0 := byteOf_eq value (k := 0) (by decide)
  have h1 : byteOf value 1 = lane value 1 := byteOf_eq value (k := 1) (by decide)
  have h2 : byteOf value 2 = lane value 2 := byteOf_eq value (k := 2) (by decide)
  have h3 : byteOf value 3 = lane value 3 := byteOf_eq value (k := 3) (by decide)
  cases width with
  | byte =>
    rw [writeBytes, h0]
    rfl
  | half =>
    rw [writeBytes, h0, h1]
    rfl
  | word =>
    rw [writeBytes, h0, h1, h2, h3]
    rfl

end Bytes

/-! ## Regions -/

namespace Region

/-- The cell in which a region begins. -/
def base : Region → Nat
  | .ram | .cacheControl | .unmapped => 0
  | .scratchpad => 0x1F800000
  | .io => 0x1F801000
  | .bios => 0x1FC00000
  | .expansion => 0x1F000000

/-- The number of its cells. -/
def size : Region → Nat
  | .ram => ramSize
  | .scratchpad => scratchpadSize
  | .io => latchSize
  | .bios => biosSize
  | .expansion => 0x800000
  | .cacheControl | .unmapped => 0

/-- Where in the region a physical address lies. -/
def offset : Region → UInt32 → Nat
  | .ram, p => Memory.ramOffset p
  | .scratchpad, p => Memory.scratchpadOffset p
  | .io, p => Memory.latchOffset p
  | .bios, p => Memory.biosOffset p
  | .expansion, p => (p - 0x1F000000).toNat
  | .cacheControl, _ | .unmapped, _ => 0

/-- The region consists of cells. -/
def hasCells : Region → Bool
  | .cacheControl | .unmapped => false
  | _ => true

/-- The region keeps what is written. -/
def keeps : Region → Bool
  | .ram | .scratchpad | .io => true
  | _ => false

/-- Regions are made of whole words. -/
theorem words (r : Region) : r.base % 4 = 0 ∧ r.size % 4 = 0 := by
  cases r <;> decide

end Region

section Access

variable {width : AccessWidth} {address : UInt32}

theorem toNat_physical (address : UInt32) :
    (physical address).toNat = address.toNat % 0x20000000 :=
  Word.toNat_and_ones address (n := 29) rfl

/-- Where a region lies. -/
def Region.Holds (p : Nat) : Region → Prop
  | .ram => p < 0x800000
  | .expansion => 0x1F000000 ≤ p ∧ p < 0x1F800000
  | .scratchpad => 0x1F800000 ≤ p ∧ p < 0x1F800400
  | .io => 0x1F801000 ≤ p ∧ p < 0x1F803000
  | .bios => 0x1FC00000 ≤ p ∧ p < 0x1FC80000
  | .cacheControl => p = 0x1FFE0130
  | .unmapped => 0x800000 ≤ p ∧ isOccupied p = false

/-- **The memory map**, as intervals of numbers. -/
theorem Region.holds_of (p : UInt32) : (Region.of p).Holds p.toNat := by
  unfold Region.of
  simp only [Bool.and_eq_true, decide_eq_true_eq, beq_iff_eq, UInt32.le_iff_toNat_le,
    ← UInt32.toNat_inj, UInt32.reduceToNat]
  split_ifs with hram hvoid hpad hio hbios hcache
  · show p.toNat < 0x800000
    omega
  · show 0x1F000000 ≤ p.toNat ∧ p.toNat < 0x1F800000
    omega
  · show 0x1F800000 ≤ p.toNat ∧ p.toNat < 0x1F800400
    omega
  · show 0x1F801000 ≤ p.toNat ∧ p.toNat < 0x1F803000
    omega
  · show 0x1FC00000 ≤ p.toNat ∧ p.toNat < 0x1FC80000
    omega
  · exact hcache
  · refine ⟨by omega, ?_⟩
    simp only [isOccupied, isKept, isBios, isVoid, Bool.or_eq_false_iff, Bool.and_eq_false_iff,
      decide_eq_false_iff_not]
    omega

/-- The cells of an aligned access lie side by side. -/
theorem cell_add {k : Nat} (haligned : width.isAligned address = true) (hk : k < width.bytes) :
    cell (address.toNat + k) = cell address.toNat + k := by
  rw [AccessWidth.isAligned_eq, decide_eq_true_iff] at haligned
  unfold cell
  cases width <;> simp only [AccessWidth.bytes] at haligned hk <;> grind

/-- Where a physical address lies in its region. -/
theorem Region.cell_eq_and_offset_lt (p : UInt32) (hp : p.toNat < 0x20000000)
    (hcells : (Region.of p).hasCells = true) :
    cell p.toNat = (Region.of p).base + (Region.of p).offset p ∧
      (Region.of p).offset p < (Region.of p).size := by
  have hholds := Region.holds_of p
  unfold cell
  rw [Nat.mod_eq_of_lt hp]
  -- above RAM there are no images, and an offset is counted from where the region begins
  have habove : ∀ (b : UInt32) (n : Nat), 0x800000 ≤ b.toNat →
      b.toNat ≤ p.toNat ∧ p.toNat < b.toNat + n →
      (if p.toNat < 0x800000 then p.toNat % 0x200000 else p.toNat) = b.toNat + (p - b).toNat ∧
        (p - b).toNat < n := by
    intro b n hb ⟨hle, hlt⟩
    rw [if_neg (by omega), UInt32.toNat_sub_of_le _ _ (UInt32.le_iff_toNat_le.2 hle)]
    omega
  cases hregion : Region.of p with
  | ram =>
    rw [hregion] at hholds
    have hlow : p.toNat < 0x800000 := hholds
    have hand : (p &&& 0x1FFFFF).toNat = p.toNat % 0x200000 :=
      Word.toNat_and_ones p (n := 21) rfl
    show (if p.toNat < 0x800000 then p.toNat % 0x200000 else p.toNat)
      = 0 + (p &&& 0x1FFFFF).toNat ∧ (p &&& 0x1FFFFF).toNat < 0x200000
    rw [if_pos hlow, hand]
    omega
  | expansion =>
    rw [hregion] at hholds
    exact habove 0x1F000000 0x800000 (by decide) hholds
  | scratchpad =>
    rw [hregion] at hholds
    exact habove 0x1F800000 0x400 (by decide) hholds
  | io =>
    rw [hregion] at hholds
    exact habove 0x1F801000 0x2000 (by decide) hholds
  | bios =>
    rw [hregion] at hholds
    exact habove 0x1FC00000 0x80000 (by decide) hholds
  | cacheControl => rw [hregion] at hcells; cases hcells
  | unmapped => rw [hregion] at hcells; cases hcells

/-- **An access that goes to a region** finds its cells there. -/
theorem cell_eq (hcells : (Region.of (physical address)).hasCells = true) :
    cell address.toNat =
      (Region.of (physical address)).base +
        (Region.of (physical address)).offset (physical address) := by
  have hlt : (physical address).toNat < 0x20000000 := by rw [toNat_physical]; omega
  rw [← (Region.cell_eq_and_offset_lt _ hlt hcells).1, toNat_physical, cell, cell, Nat.mod_mod]

/-- **No access reaches out of its region**. -/
theorem offset_lt {k : Nat} (hcells : (Region.of (physical address)).hasCells = true)
    (haligned : width.isAligned address = true) (hk : k < width.bytes) :
    (Region.of (physical address)).offset (physical address) + k <
      (Region.of (physical address)).size := by
  have hlt : (physical address).toNat < 0x20000000 := by rw [toNat_physical]; omega
  obtain ⟨hcell, hoffset⟩ := Region.cell_eq_and_offset_lt _ hlt hcells
  obtain ⟨hbase, hsize⟩ := Region.words (Region.of (physical address))
  rw [AccessWidth.isAligned_eq, decide_eq_true_iff] at haligned
  have hphysical : (physical address).toNat % width.bytes = 0 := by
    rw [toNat_physical]
    cases width <;> simp only [AccessWidth.bytes] at haligned ⊢ <;> omega
  have hmultiple : cell (physical address).toNat % width.bytes = 0 := by
    unfold cell
    cases width <;> simp only [AccessWidth.bytes] at hphysical ⊢ <;> grind
  rw [hcell] at hmultiple
  cases width <;> simp only [AccessWidth.bytes] at hmultiple hk <;> omega

/-- The kind of a cell is that of the region it lies in. -/
theorem kind_base_add {r : Region} {i : Nat} (hi : i < r.size) :
    isKept (r.base + i) = r.keeps ∧ isBios (r.base + i) = decide (r = .bios) ∧
      isVoid (r.base + i) = decide (r = .expansion) := by
  refine ⟨Bool.eq_iff_iff.2 ?_, Bool.eq_iff_iff.2 ?_, Bool.eq_iff_iff.2 ?_⟩ <;>
    simp only [isKept, isBios, isVoid, Bool.or_eq_true, Bool.and_eq_true, decide_eq_true_eq] <;>
    cases r <;>
    simp only [Region.size, Region.base, Region.keeps, ramSize, scratchpadSize, latchSize,
      biosSize, reduceCtorEq, Bool.false_eq_true, iff_true, iff_false] at hi ⊢ <;>
    omega

/-- Something lies in the cells of a region. -/
theorem isOccupied_base_add {r : Region} {i : Nat} (hi : i < r.size) :
    isOccupied (r.base + i) = true := by
  obtain ⟨hkept, hbios, hvoid⟩ := kind_base_add hi
  rw [isOccupied, hkept, hbios, hvoid]
  cases r with
  | cacheControl | unmapped => exact absurd hi (Nat.not_lt_zero i)
  | _ => rfl

/-- What has no cells is the cache-control register, or nothing. -/
theorem eq_unmapped (hcache : physical address ≠ 0x1FFE0130)
    (hcells : (Region.of (physical address)).hasCells = false) :
    Region.of (physical address) = .unmapped := by
  have hholds := Region.holds_of (physical address)
  cases hregion : Region.of (physical address) with
  | unmapped => rfl
  | cacheControl =>
    rw [hregion] at hholds
    have hsame : (physical address).toNat = (0x1FFE0130 : UInt32).toNat := hholds
    exact absurd (UInt32.toNat_inj.1 hsame) hcache
  | _ => rw [hregion] at hcells; cases hcells

/-- Nothing lies in the cells of an access to no region. -/
theorem isOccupied_of_unmapped (hregion : Region.of (physical address) = .unmapped) :
    isOccupied (cell address.toNat) = false := by
  have hholds := Region.holds_of (physical address)
  rw [hregion, toNat_physical] at hholds
  unfold cell
  rw [if_neg (Nat.not_lt.2 hholds.1)]
  exact hholds.2

/-- An aligned access finds something in all of its cells, or nothing in the first. -/
theorem all_isOccupied (haligned : width.isAligned address = true)
    (hcache : physical address ≠ 0x1FFE0130) :
    (cells width address).all isOccupied = (Region.of (physical address)).hasCells := by
  cases hcells : (Region.of (physical address)).hasCells with
  | true =>
    rw [List.all_eq_true]
    intro c hc
    obtain ⟨k, hk, rfl⟩ := List.mem_map.1 hc
    rw [cell_add haligned (List.mem_range.1 hk), cell_eq hcells, Nat.add_assoc]
    exact isOccupied_base_add (offset_lt hcells haligned (List.mem_range.1 hk))
  | false =>
    have hregion := eq_unmapped hcache hcells
    have hpos : 0 < width.bytes := by cases width <;> decide
    refine Bool.eq_false_iff.2 fun hall => ?_
    have hfirst := List.all_eq_true.1 hall (cell (address.toNat + 0))
      (List.mem_map.2 ⟨0, List.mem_range.2 hpos, rfl⟩)
    rw [Nat.add_zero, isOccupied_of_unmapped hregion] at hfirst
    cases hfirst

end Access

/-! ## The view -/

namespace Memory

variable {width : AccessWidth} {address : UInt32}

/-- The byte of a region at an offset. -/
def getByte (m : Memory) (r : Region) (i : Nat) : UInt8 :=
  match r with
  | .ram => m.ram.getD i 0
  | .scratchpad => m.scratchpad.getD i 0
  | .io => m.latch.getD i 0
  | .bios => m.bios.getD i 0
  | .expansion => if i < 0x100 then 0 else 0xFF
  | .cacheControl | .unmapped => 0

/-- Replaces the byte of a region at an offset, where the region keeps what is written. -/
def setByte (m : Memory) (r : Region) (i : Nat) (b : UInt8) : Memory :=
  match r with
  | .ram => { m with ram := m.ram.setIfInBounds i b }
  | .scratchpad => { m with scratchpad := m.scratchpad.setIfInBounds i b }
  | .io => { m with latch := m.latch.setIfInBounds i b }
  | _ => m

/-- The region that keeps a cell. -/
def keeper (c : Nat) : Region :=
  if c < 0x1F800000 then .ram else if c < 0x1F801000 then .scratchpad else .io

/-- The byte store that a memory shows. -/
def view (m : Memory) : ByteStore where
  image := m.getByte .bios
  byte c := m.getByte (keeper c) (c - (keeper c).base)

theorem keeper_base_add {r : Region} {i : Nat} (hkeeps : r.keeps = true) (hi : i < r.size) :
    keeper (r.base + i) = r := by
  unfold keeper
  cases r with
  | ram =>
    have hi' : i < 0x200000 := hi
    exact if_pos (show 0 + i < 0x1F800000 by omega)
  | scratchpad =>
    have hi' : i < 0x400 := hi
    exact (if_neg (show ¬ 0x1F800000 + i < 0x1F800000 by omega)).trans
      (if_pos (show 0x1F800000 + i < 0x1F801000 by omega))
  | io =>
    exact (if_neg (show ¬ 0x1F801000 + i < 0x1F800000 by omega)).trans
      (if_neg (show ¬ 0x1F801000 + i < 0x1F801000 by omega))
  | _ => cases hkeeps

theorem base_keeper_le (c : Nat) : (keeper c).base ≤ c := by
  unfold keeper
  split_ifs with hram hpad
  · exact Nat.zero_le c
  · exact Nat.not_lt.1 hram
  · exact Nat.not_lt.1 hpad

theorem getByte_setByte (m : Memory) {r : Region} {i : Nat} (b : UInt8) (hkeeps : r.keeps = true)
    (hi : i < r.size) (r' : Region) (j : Nat) :
    (m.setByte r i b).getByte r' j = if r' = r ∧ j = i then b else m.getByte r' j := by
  by_cases hr : r' = r
  · subst hr
    have hcond : (r' = r' ∧ j = i) ↔ j = i := and_iff_right rfl
    rw [if_congr hcond rfl rfl]
    cases r' with
    | ram | scratchpad | io => exact getD_setIfInBounds _ hi b j
    | _ => cases hkeeps
  · rw [if_neg fun h => hr h.1]
    cases r <;> cases r' <;> first | rfl | exact absurd rfl hr

/-- **A byte of a region** is what the view has in its cell. -/
theorem peek_view (m : Memory) {r : Region} {i : Nat} (hi : i < r.size) :
    m.view.peek (r.base + i) = m.getByte r i := by
  obtain ⟨-, hbios, hvoid⟩ := kind_base_add hi
  rw [ByteStore.peek, hbios, hvoid]
  cases r with
  | ram | scratchpad | io =>
    show m.getByte (keeper _) (_ - (keeper _).base) = _
    rw [keeper_base_add rfl hi, Nat.add_sub_cancel_left]
  | bios => exact congrArg (m.getByte .bios) (Nat.add_sub_cancel_left _ _)
  | expansion =>
    show (if 0x1F000000 + i < 0x1F000100 then 0 else 0xFF) = if i < 0x100 then 0 else 0xFF
    exact if_congr (by omega) rfl rfl
  | cacheControl | unmapped => exact absurd hi (Nat.not_lt_zero i)

/-- **To write a byte of a region** is to poke its cell. -/
theorem view_setByte (m : Memory) {r : Region} {i : Nat} (b : UInt8) (hi : i < r.size) :
    (m.setByte r i b).view = m.view.poke (r.base + i) b := by
  rw [ByteStore.poke, (kind_base_add hi).1]
  cases hkeeps : r.keeps with
  | false => cases r <;> first | rfl | cases hkeeps
  | true =>
    have himage : (m.setByte r i b).getByte .bios = m.getByte .bios := by
      funext j
      rw [getByte_setByte m b hkeeps hi, if_neg]
      rintro ⟨rfl, -⟩
      cases hkeeps
    have hbyte : (m.setByte r i b).view.byte = Function.update m.view.byte (r.base + i) b := by
      funext c
      have hplace : (keeper c = r ∧ c - (keeper c).base = i) ↔ c = r.base + i := by
        constructor
        · rintro ⟨rfl, rfl⟩
          exact (Nat.add_sub_of_le (base_keeper_le c)).symm
        · rintro rfl
          rw [keeper_base_add hkeeps hi]
          exact ⟨rfl, Nat.add_sub_cancel_left _ _⟩
      rw [Function.update_apply, ← if_congr hplace rfl rfl]
      exact getByte_setByte m b hkeeps hi (keeper c) _
    exact congrArg₂ ByteStore.mk himage hbyte

/-! ## Accesses -/

/-- The empty slot answers with the bytes that lie there. -/
theorem expansionByte_and_mask (m : Memory) (haligned : width.isAligned address = true)
    (hregion : Region.of (physical address) = .expansion) :
    expansionByte (physical address) &&& width.mask =
      UInt32.ofNat (littleEndian ((List.range width.bytes).map fun k =>
        m.getByte .expansion (Region.expansion.offset (physical address) + k))) := by
  have hplace := Region.holds_of (physical address)
  rw [hregion] at hplace
  have hoffset : Region.expansion.offset (physical address) =
      (physical address).toNat - 0x1F000000 :=
    UInt32.toNat_sub_of_le _ _ (UInt32.le_iff_toNat_le.2 hplace.1)
  -- the header ends between two words, so an access is all in it or all behind it
  have hsame : ∀ k, k < width.bytes →
      m.getByte .expansion (Region.expansion.offset (physical address) + k) =
        if physical address ≤ 0x1F0000FF then 0 else 0xFF := by
    intro k hk
    have hlow := hplace.1
    rw [AccessWidth.isAligned_eq, decide_eq_true_iff] at haligned
    have hphysical := toNat_physical address
    refine if_congr ?_ rfl rfl
    rw [hoffset, UInt32.le_iff_toNat_le]
    show _ ↔ (physical address).toNat ≤ 0x1F0000FF
    cases width <;> simp only [AccessWidth.bytes] at haligned hk <;> omega
  rw [List.map_congr_left fun k hk => hsame k (List.mem_range.1 hk), expansionByte]
  split_ifs with hheader <;> cases width <;> rfl

/-- **What is read** are the bytes that lie side by side in a region. -/
theorem read_eq (m : Memory) (haligned : width.isAligned address = true)
    (hcells : (Region.of (physical address)).hasCells = true) :
    m.read width address =
      .ok (UInt32.ofNat (littleEndian ((List.range width.bytes).map fun k =>
        m.getByte (Region.of (physical address))
          ((Region.of (physical address)).offset (physical address) + k)))) := by
  simp only [read, haligned]
  cases hregion : Region.of (physical address) with
  | ram => exact congrArg Except.ok (readBytes_eq m.ram _ width)
  | scratchpad => exact congrArg Except.ok (readBytes_eq m.scratchpad _ width)
  | io => exact congrArg Except.ok (readBytes_eq m.latch _ width)
  | bios => exact congrArg Except.ok (readBytes_eq m.bios _ width)
  | expansion => exact congrArg Except.ok (expansionByte_and_mask m haligned hregion)
  | cacheControl | unmapped => rw [hregion] at hcells; cases hcells

/-- **What is written** are bytes side by side in a region. -/
theorem write_eq (m : Memory) (value : UInt32) (haligned : width.isAligned address = true)
    (hcells : (Region.of (physical address)).hasCells = true) :
    m.write width address value =
      .done ((List.range width.bytes).foldl (fun m k =>
        m.setByte (Region.of (physical address))
          ((Region.of (physical address)).offset (physical address) + k) (lane value k)) m) := by
  simp only [write, haligned]
  cases hregion : Region.of (physical address) with
  | ram =>
    show Outcome.done _ = _
    rw [writeBytes_eq]
    cases width <;> rfl
  | scratchpad =>
    show Outcome.done _ = _
    rw [writeBytes_eq]
    cases width <;> rfl
  | io =>
    show Outcome.done _ = _
    rw [writeBytes_eq]
    cases width <;> rfl
  | bios => cases width <;> rfl
  | expansion => cases width <;> rfl
  | cacheControl | unmapped => rw [hregion] at hcells; cases hcells

/-- The cells of an access to a region. -/
theorem cell_add_eq {k : Nat} (haligned : width.isAligned address = true)
    (hcells : (Region.of (physical address)).hasCells = true) (hk : k < width.bytes) :
    cell (address.toNat + k) =
      (Region.of (physical address)).base +
        ((Region.of (physical address)).offset (physical address) + k) := by
  rw [cell_add haligned hk, cell_eq hcells, Nat.add_assoc]

/-- **A read of memory** is a load of its view. -/
theorem read_view (m : Memory) (width : AccessWidth) (hcache : physical address ≠ 0x1FFE0130) :
    m.read width address = (m.view.load width address).1 := by
  by_cases hmod : address.toNat % width.bytes = 0
  · have haligned : width.isAligned address = true :=
      (width.isAligned_eq address).trans (decide_eq_true hmod)
    rw [ByteStore.load, if_neg (not_not.2 hmod), all_isOccupied haligned hcache]
    cases hcells : (Region.of (physical address)).hasCells with
    | true =>
      have hbytes : (cells width address).map m.view.peek =
          (List.range width.bytes).map fun k => m.getByte (Region.of (physical address))
            ((Region.of (physical address)).offset (physical address) + k) := by
        rw [cells, List.map_map]
        refine List.map_congr_left fun k hk => ?_
        have hk := List.mem_range.1 hk
        show m.view.peek (cell (address.toNat + k)) = _
        rw [cell_add_eq haligned hcells hk, peek_view m (offset_lt hcells haligned hk)]
      rw [read_eq m haligned hcells, ← hbytes]
      rfl
    | false => exact m.read_of_vacant haligned (beq_iff_eq.2 (eq_unmapped hcache hcells))
  · have haligned : width.isAligned address = false :=
      (width.isAligned_eq address).trans (decide_eq_false hmod)
    rw [read, haligned, ByteStore.load, if_pos hmod]
    rfl

/-- To write some bytes of a region is to poke their cells. -/
theorem view_foldl_setByte (r : Region) (offset : Nat) (value : UInt32) (lanes : List Nat)
    (m : Memory) (hlt : ∀ k ∈ lanes, offset + k < r.size) :
    (lanes.foldl (fun m k => m.setByte r (offset + k) (lane value k)) m).view =
      lanes.foldl (fun s k => s.poke (r.base + (offset + k)) (lane value k)) m.view := by
  induction lanes generalizing m with
  | nil => rfl
  | cons k lanes ih =>
    rw [List.foldl_cons, List.foldl_cons, ← view_setByte m _ (hlt k List.mem_cons_self)]
    exact ih _ fun k hk => hlt k (List.mem_cons_of_mem _ hk)

/-- **A write to memory** is a store to its view, and refused by both or by none. -/
theorem write_view (m : Memory) (width : AccessWidth) (value : UInt32)
    (hcache : physical address ≠ 0x1FFE0130) :
    (m.write width address value).fault = (m.view.store width address value).fault ∧
      (m.write width address value).state.view = (m.view.store width address value).state := by
  by_cases hmod : address.toNat % width.bytes = 0
  · have haligned : width.isAligned address = true :=
      (width.isAligned_eq address).trans (decide_eq_true hmod)
    rw [ByteStore.store, if_neg (not_not.2 hmod), all_isOccupied haligned hcache]
    cases hcells : (Region.of (physical address)).hasCells with
    | true =>
      rw [write_eq m value haligned hcells]
      refine ⟨rfl, (view_foldl_setByte _ _ value _ m fun k hk =>
        offset_lt hcells haligned (List.mem_range.1 hk)).trans ?_⟩
      show List.foldl _ m.view _ = List.foldl _ m.view _
      refine List.foldl_ext _ _ m.view fun s k hk => ?_
      rw [cell_add_eq haligned hcells (List.mem_range.1 hk)]
    | false =>
      rw [m.write_of_vacant value haligned (beq_iff_eq.2 (eq_unmapped hcache hcells))]
      exact ⟨rfl, rfl⟩
  · have haligned : width.isAligned address = false :=
      (width.isAligned_eq address).trans (decide_eq_false hmod)
    rw [write, haligned, ByteStore.store, if_pos hmod]
    exact ⟨rfl, rfl⟩

/-! ## Sequences of accesses -/

/-- A request is answered as the view answers it, and leaves the view as it leaves the view. -/
theorem request_view (m : Memory) (r : Request) (hcache : physical r.address ≠ 0x1FFE0130) :
    r.reply m = r.reply m.view ∧ (r.perform m).view = r.perform m.view := by
  cases r with
  | load width address =>
    have hview : (m.view.load width address).2 = m.view := by
      unfold ByteStore.load
      split_ifs <;> rfl
    exact ⟨congrArg (Except.map some) (read_view m width hcache), hview.symm⟩
  | store width address value =>
    obtain ⟨hfault, hstate⟩ :=
      write_view m width value (show physical address ≠ 0x1FFE0130 from hcache)
    refine ⟨?_, hstate⟩
    show Request.acknowledgement (m.write width address value).fault = _
    rw [hfault]
    rfl

/-- A refused request changes nothing. -/
theorem perform_of_refused (m : Memory) {r : Request} {fault : Fault}
    (h : r.reply m = .error fault) : r.perform m = m := by
  cases r with
  | load width address => rfl
  | store width address value =>
    show (m.write width address value).state = m
    replace h : Request.acknowledgement (m.write width address value).fault = .error fault := h
    revert h
    unfold write
    split_ifs
    · exact fun _ => rfl
    · dsimp only
      cases Region.of (physical address) with
      | unmapped | bios | expansion => exact fun _ => rfl
      | _ => exact fun h => by cases h

/-- **Memory is one store of bytes.**  A sequence of accesses that stays away from the cache-control
register is answered as the view answers it, and leaves the view that the view itself becomes; an
access that is refused changes nothing, no access reaches out of the vector behind its region, and
the BIOS of the view is the image that was loaded. -/
theorem replies_view (m : Memory) (requests : List Request)
    (hcache : ∀ r ∈ requests, physical r.address ≠ 0x1FFE0130) :
    replies m requests = replies m.view requests ∧
      (performAll m requests).view = performAll m.view requests ∧
      (∀ before r after fault, requests = before ++ r :: after →
        r.reply (performAll m before) = .error fault →
          performAll m (before ++ [r]) = performAll m before) ∧
      (∀ r ∈ requests, r.width.isAligned r.address = true →
        (Region.of (physical r.address)).hasCells = true →
          (Region.of (physical r.address)).offset (physical r.address) + r.width.bytes ≤
            (Region.of (physical r.address)).size) ∧
      ∀ m₀ image, loadBios m₀ image = .ok m → ∀ i, m.view.image i = image.data.getD i 0 := by
  refine ⟨?_, ?_, ?_, ?_, ?_⟩
  · induction requests generalizing m with
    | nil => rfl
    | cons r requests ih =>
      obtain ⟨hreply, hview⟩ := request_view m r (hcache r List.mem_cons_self)
      rw [replies, replies, hreply, ← hview,
        ih (r.perform m) fun q hq => hcache q (List.mem_cons_of_mem _ hq)]
  · induction requests generalizing m with
    | nil => rfl
    | cons r requests ih =>
      have hview := (request_view m r (hcache r List.mem_cons_self)).2
      have htail := ih (r.perform m) fun q hq => hcache q (List.mem_cons_of_mem _ hq)
      rw [hview] at htail
      exact htail
  · rintro before r after fault - hrefused
    rw [performAll, List.foldl_append]
    exact perform_of_refused _ hrefused
  · intro r _ haligned hcells
    have hpos : 0 < r.width.bytes := by cases r.width <;> decide
    have hlast := offset_lt hcells haligned (Nat.sub_lt hpos Nat.one_pos)
    omega
  · intro m₀ image hload i
    unfold loadBios at hload
    split_ifs at hload with hsize
    · obtain rfl := Except.ok.inj hload
      rfl

/-- A few accesses to cells with more than one address, and some that are refused. -/
def mirrored : List Request :=
  [.store .word 0x80000100 0x11223344, .load .word 0x00200100, .store .byte 0xA0400101 0xAA,
    .load .half 0x00000100, .load .word 0x00000102, .store .half 0x1F801070 0xBEEF,
    .load .byte 0x9F801071, .load .half 0x1F0000FE, .load .word 0x1F000100,
    .store .half 0x1F000100 0, .load .byte 0x00800000]

theorem replies_view_mirrored :
    (∀ r ∈ mirrored, physical r.address ≠ 0x1FFE0130) ∧
      replies blank mirrored =
        [.ok none, .ok (some 0x11223344), .ok none, .ok (some 0xAA44),
          .error (.misaligned 0x00000102 4), .ok none, .ok (some 0xBE), .ok (some 0),
          .ok (some 0xFFFFFFFF), .ok none, .error (.unmapped 0x00800000)] := by
  have hcache : ∀ r ∈ mirrored, physical r.address ≠ 0x1FFE0130 := by decide
  refine ⟨hcache, (replies_view blank mirrored hcache).1.trans ?_⟩
  decide +kernel

end Memory

end PlayStation

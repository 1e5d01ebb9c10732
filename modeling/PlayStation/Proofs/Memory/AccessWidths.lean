/-
  ACCESS WIDTHS: one word, read and written at any width.

  A word that memory answers with is made of the bytes and halves that the narrow loads inside of it
  answer with, and a narrow store replaces the bytes it covers and no others (`WidthsAgree`).  That
  holds of every word but one.  The cache-control register has no byte of its own: behind its first
  address nothing answers, and a narrow store replaces all of it (`cacheControl_bytes`).

  1. **Lanes**: the bytes of a little-endian number are the bytes it was made of
     (`lane_littleEndian`), and some lanes in a row are a field of it (`littleEndian_lanes`).

  2. **The byte store**: the cells of an access inside of a word are some of the word's
     (`cells_within`).  So what it loads are lanes of the word (`load_within`), and what it stores
     changes no other lane (`store_within`).

  3. **Memory** shows a byte store away from the cache-control register, so the widths agree there
     (`widthsAgree_of_ne`), and there only (`widths_agree_iff`).
-/
import Mathlib.Algebra.GroupWithZero.Nat
import PlayStation.Proofs.Memory.ByteStore
import PlayStation.Proofs.Memory.Words

namespace PlayStation

/-! ## Lanes -/

theorem toNat_lane (w : UInt32) (k : Nat) : (lane w k).toNat = w.toNat >>> (8 * k) % 256 :=
  UInt8.toNat_ofNat'

theorem littleEndian_lt (bytes : List UInt8) : littleEndian bytes < 256 ^ bytes.length := by
  induction bytes with
  | nil => exact Nat.one_pos
  | cons b bytes ih =>
    have hb : b.toNat < 256 := b.toNat_lt
    rw [littleEndian, List.length_cons, Nat.pow_succ]
    omega

/-- Shifted down byte by byte, a little-endian number gives its bytes. -/
theorem littleEndian_shiftRight (bytes : List UInt8) : ∀ {k : Nat} (hk : k < bytes.length),
    littleEndian bytes >>> (8 * k) % 256 = (bytes[k]).toNat := by
  induction bytes with
  | nil => exact fun hk => absurd hk (Nat.not_lt_zero _)
  | cons b bytes ih =>
    intro k hk
    have hb : b.toNat < 256 := b.toNat_lt
    cases k with
    | zero =>
      show (b.toNat + 256 * littleEndian bytes) % 256 = b.toNat
      omega
    | succ k =>
      have hshift : littleEndian (b :: bytes) >>> (8 * (k + 1)) =
          littleEndian bytes >>> (8 * k) := by
        have hfirst : littleEndian (b :: bytes) >>> 8 = littleEndian bytes := by
          rw [littleEndian, Nat.shiftRight_eq_div_pow]
          omega
        rw [Nat.mul_succ, Nat.add_comm, Nat.shiftRight_add, hfirst]
      rw [hshift]
      exact ih (Nat.lt_of_succ_lt_succ hk)

/-- **The lanes of a word** are the bytes it was made of. -/
theorem lane_littleEndian {bytes : List UInt8} (hlength : bytes.length ≤ 4) {k : Nat}
    (hk : k < bytes.length) : lane (UInt32.ofNat (littleEndian bytes)) k = bytes[k] := by
  have hsize : littleEndian bytes < UInt32.size :=
    Nat.lt_of_lt_of_le (littleEndian_lt bytes) (Nat.pow_le_pow_right (by decide) hlength)
  rw [← UInt8.toNat_inj, toNat_lane, UInt32.toNat_ofNat_of_lt' hsize]
  exact littleEndian_shiftRight bytes hk

/-- **Lanes in a row** are a field of the word. -/
theorem littleEndian_lanes (w : UInt32) (n : Nat) : ∀ k : Nat,
    littleEndian ((List.range n).map fun i => lane w (k + i)) =
      w.toNat >>> (8 * k) % 256 ^ n := by
  induction n with
  | zero => exact fun k => (Nat.mod_one _).symm
  | succ n ih =>
    intro k
    have hshift : w.toNat >>> (8 * (k + 1)) = w.toNat >>> (8 * k) / 256 := by
      rw [Nat.mul_succ, Nat.shiftRight_add, Nat.shiftRight_eq_div_pow _ 8]
    have hlater : (List.range n).map (fun i => lane w (k + (i + 1))) =
        (List.range n).map fun i => lane w (k + 1 + i) := by
      refine List.map_congr_left fun i _ => ?_
      rw [Nat.add_assoc, Nat.add_comm 1 i]
    rw [List.range_succ_eq_map, List.map_cons, List.map_map, littleEndian, toNat_lane]
    show w.toNat >>> (8 * k) % 256 + 256 * littleEndian ((List.range n).map
      fun i => lane w (k + (i + 1))) = _
    rw [hlater, ih, hshift, Nat.pow_succ', Nat.mod_mul]

/-- What an access of some width takes out of a word. -/
theorem ofNat_littleEndian_lanes (w : UInt32) (width : AccessWidth) {k : Nat} (hk : k < 4) :
    UInt32.ofNat (littleEndian ((List.range width.bytes).map fun i => lane w (k + i))) =
      (w >>> UInt32.ofNat (8 * k)) &&& width.mask := by
  have hplace : (UInt32.ofNat (8 * k)).toNat % 32 = 8 * k := by
    rw [UInt32.toNat_ofNat']
    omega
  have hshift : (w >>> UInt32.ofNat (8 * k)).toNat = w.toNat >>> (8 * k) := by
    rw [UInt32.toNat_shiftRight, hplace]
  have hmask : ((w >>> UInt32.ofNat (8 * k)) &&& width.mask).toNat =
      w.toNat >>> (8 * k) % 256 ^ width.bytes := by
    rw [← hshift]
    cases width with
    | byte => exact Word.toNat_and_ones _ (n := 8) rfl
    | half => exact Word.toNat_and_ones _ (n := 16) rfl
    | word => exact Word.toNat_and_ones _ (n := 32) rfl
  rw [littleEndian_lanes, ← hmask, UInt32.ofNat_toNat]

/-! ## Accesses inside of a word -/

section Within

variable {width : AccessWidth} {a : UInt32} {k : Nat}

theorem AccessWidth.place_lt (hk : k + width.bytes ≤ 4) : k < 4 := by
  have hpos : 0 < width.bytes := by cases width <;> decide
  omega

/-- A place in a word, as a number. -/
theorem toNat_within (ha : a.toNat % 4 = 0) (hk : k < 4) :
    (a + UInt32.ofNat k).toNat = a.toNat + k := by
  have hlt : a.toNat < 4294967296 := a.toNat_lt
  have hk' : (UInt32.ofNat k).toNat = k :=
    UInt32.toNat_ofNat_of_lt' (Nat.lt_trans hk (by decide))
  rw [UInt32.toNat_add, hk']
  omega

/-- The cells of a word lie side by side. -/
theorem cell_within (ha : a.toNat % 4 = 0) (hk : k < 4) :
    cell (a.toNat + k) = cell a.toNat + k := by
  have haligned : AccessWidth.word.isAligned a = true :=
    (AccessWidth.isAligned_eq _ a).trans (decide_eq_true ha)
  exact cell_add haligned hk

/-- The cells of an access inside of a word are some of the word's. -/
theorem cells_within (ha : a.toNat % 4 = 0) (hk : k + width.bytes ≤ 4) :
    cells width (a + UInt32.ofNat k) =
      (List.range width.bytes).map fun i => cell a.toNat + (k + i) := by
  rw [cells, toNat_within ha (AccessWidth.place_lt hk)]
  refine List.map_congr_left fun i hi => ?_
  have hi : i < width.bytes := List.mem_range.1 hi
  rw [Nat.add_assoc, cell_within ha (by omega)]

end Within

namespace ByteStore

/-- A word lies at an address. -/
structure HasWord (s : ByteStore) (a v : UInt32) : Prop where
  aligned : a.toNat % 4 = 0
  occupied : ∀ j < 4, isOccupied (cell a.toNat + j) = true
  byte : ∀ j < 4, lane v j = s.peek (cell a.toNat + j)

variable {s : ByteStore} {width : AccessWidth} {a v value : UInt32} {k : Nat}

/-- The word in four cells. -/
def wordAt (s : ByteStore) (c : Nat) : UInt32 :=
  UInt32.ofNat (littleEndian (((List.range 4).map fun j => c + j).map s.peek))

theorem lane_wordAt (s : ByteStore) (c : Nat) {j : Nat} (hj : j < 4) :
    lane (s.wordAt c) j = s.peek (c + j) := by
  rw [wordAt, lane_littleEndian (by simp) (by simpa using hj)]
  simp

/-- Where four cells of something begin, there lies a word. -/
theorem hasWord_wordAt (s : ByteStore) (ha : a.toNat % 4 = 0)
    (hoccupied : ∀ j < 4, isOccupied (cell a.toNat + j) = true) :
    s.HasWord a (s.wordAt (cell a.toNat)) :=
  ⟨ha, hoccupied, fun _ hj => lane_wordAt s _ hj⟩

/-- What a load of a word answers with lies there. -/
theorem hasWord_of_load (h : (s.load .word a).1 = .ok v) : s.HasWord a v := by
  unfold load at h
  split_ifs at h with hmod hoccupied
  have ha : a.toNat % 4 = 0 := not_not.1 hmod
  have hcells : cells .word a = (List.range 4).map fun j => cell a.toNat + j :=
    List.map_congr_left fun j hj => cell_within ha (List.mem_range.1 hj)
  rw [hcells] at h hoccupied
  have hcell : ∀ j < 4, isOccupied (cell a.toNat + j) = true := fun j hj =>
    List.all_eq_true.1 hoccupied _ (List.mem_map.2 ⟨j, List.mem_range.2 hj, rfl⟩)
  obtain rfl : s.wordAt (cell a.toNat) = v := Except.ok.inj h
  exact s.hasWord_wordAt ha hcell

/-- An access inside of a word is aligned when its place in the word is. -/
theorem HasWord.aligned_within (h : s.HasWord a v) (haligned : k % width.bytes = 0)
    (hk : k + width.bytes ≤ 4) : ¬(a + UInt32.ofNat k).toNat % width.bytes ≠ 0 := by
  have ha : a.toNat % 4 = 0 := h.aligned
  rw [toNat_within ha (AccessWidth.place_lt hk), not_not]
  cases width <;> simp only [AccessWidth.bytes] at haligned ⊢ <;> omega

/-- Something lies wherever the access goes. -/
theorem HasWord.occupied_within (h : s.HasWord a v) (hk : k + width.bytes ≤ 4) :
    (cells width (a + UInt32.ofNat k)).all isOccupied = true := by
  rw [cells_within h.aligned hk, List.all_eq_true]
  intro c hc
  obtain ⟨i, hi, rfl⟩ := List.mem_map.1 hc
  have hi : i < width.bytes := List.mem_range.1 hi
  exact h.occupied (k + i) (by omega)

/-- **A load inside of a word** answers with a field of it. -/
theorem HasWord.load_within (h : s.HasWord a v) (haligned : k % width.bytes = 0)
    (hk : k + width.bytes ≤ 4) :
    (s.load width (a + UInt32.ofNat k)).1 =
      .ok ((v >>> UInt32.ofNat (8 * k)) &&& width.mask) := by
  have hbytes : (cells width (a + UInt32.ofNat k)).map s.peek =
      (List.range width.bytes).map fun i => lane v (k + i) := by
    rw [cells_within h.aligned hk, List.map_map]
    refine List.map_congr_left fun i hi => ?_
    have hi : i < width.bytes := List.mem_range.1 hi
    exact (h.byte (k + i) (by omega)).symm
  rw [ByteStore.load, if_neg (h.aligned_within haligned hk), if_pos (h.occupied_within hk), hbytes,
    ofNat_littleEndian_lanes v width (AccessWidth.place_lt hk)]

/-- So a load of the word itself answers with it. -/
theorem HasWord.load (h : s.HasWord a v) : (s.load .word a).1 = .ok v := by
  have hload : (s.load .word (a + 0)).1 = .ok ((v >>> 0) &&& AccessWidth.word.mask) :=
    h.load_within (by decide) (by decide)
  have hall : v &&& AccessWidth.word.mask = v := UInt32.and_neg_one
  rwa [UInt32.add_zero, UInt32.shiftRight_zero, hall] at hload

theorem kept_apart {c : Nat} (h : isKept c = true) : isBios c = false ∧ isVoid c = false := by
  simp only [isKept, isBios, isVoid, Bool.or_eq_true, Bool.and_eq_true, Bool.and_eq_false_iff,
    decide_eq_true_eq, decide_eq_false_iff_not] at h ⊢
  omega

/-- A cell that was poked has the new byte, if it keeps one, and the others are what they were. -/
theorem peek_poke (s : ByteStore) (c : Nat) (b : UInt8) (c' : Nat) :
    (s.poke c b).peek c' = if isKept c' = true ∧ c' = c then b else s.peek c' := by
  unfold poke
  by_cases hkept : isKept c = true
  · rw [if_pos hkept]
    by_cases hsame : c' = c
    · subst hsame
      obtain ⟨hbios, hvoid⟩ := kept_apart hkept
      rw [if_pos ⟨hkept, rfl⟩, peek, hbios, hvoid]
      exact Function.update_self c' b s.byte
    · rw [if_neg fun h => hsame h.2, peek, peek]
      simp only [Function.update_of_ne hsame]
  · rw [if_neg hkept, if_neg]
    rintro ⟨hkept', rfl⟩
    exact hkept hkept'

/-- Cells in a row that were poked. -/
theorem peek_foldl_poke (s : ByteStore) (first : Nat) (value : UInt32) (n c : Nat) :
    ((List.range n).foldl (fun s i => s.poke (first + i) (lane value i)) s).peek c =
      if isKept c = true ∧ first ≤ c ∧ c < first + n then lane value (c - first) else s.peek c := by
  induction n with
  | zero =>
    rw [if_neg (by omega)]
    rfl
  | succ n ih =>
    -- the cells differ, so the last one alone sees the last byte
    rw [List.range_succ, List.foldl_append, List.foldl_cons, List.foldl_nil, peek_poke, ih]
    by_cases hlast : c = first + n
    · have hback : c - first = n := by omega
      by_cases hkept : isKept c = true
      · rw [if_pos ⟨hkept, hlast⟩, if_pos ⟨hkept, by omega, by omega⟩, hback]
      · rw [if_neg fun h => hkept h.1, if_neg fun h => hkept h.1, if_neg fun h => hkept h.1]
    · have hearlier : c < first + (n + 1) ↔ c < first + n := by omega
      simp only [if_neg fun h : isKept c = true ∧ c = first + n => hlast h.2, hearlier]

/-- **A store inside of a word** is accepted, and leaves a word with the bytes that were stored
where it kept them, and with its own everywhere else. -/
theorem HasWord.store_within (h : s.HasWord a v) (value : UInt32) (haligned : k % width.bytes = 0)
    (hk : k + width.bytes ≤ 4) :
    (s.store width (a + UInt32.ofNat k) value).fault = none ∧
      ∃ v', (s.store width (a + UInt32.ofNat k) value).state.HasWord a v' ∧
        ∀ j < 4, lane v' j = lane v j ∨
          (k ≤ j ∧ j < k + width.bytes ∧ lane v' j = lane value (j - k)) := by
  have hstore : s.store width (a + UInt32.ofNat k) value =
      .done ((List.range width.bytes).foldl
        (fun s i => s.poke (cell a.toNat + k + i) (lane value i)) s) := by
    rw [ByteStore.store, if_neg (h.aligned_within haligned hk), if_pos (h.occupied_within hk)]
    congr 1
    refine List.foldl_ext _ _ s fun s i hi => ?_
    have hi : i < width.bytes := List.mem_range.1 hi
    rw [toNat_within h.aligned (AccessWidth.place_lt hk), Nat.add_assoc, Nat.add_assoc,
      cell_within h.aligned (by omega)]
  rw [hstore]
  refine ⟨rfl, _, hasWord_wordAt _ h.aligned h.occupied, fun j hj => ?_⟩
  simp only [lane_wordAt _ _ hj, h.byte j hj, Outcome.done, peek_foldl_poke]
  split_ifs with hstored
  · obtain ⟨-, hfrom, hto⟩ := hstored
    have hback : cell a.toNat + j - (cell a.toNat + k) = j - k := by omega
    exact .inr ⟨by omega, by omega, by rw [hback]⟩
  · exact .inl rfl

end ByteStore

/-! ## Memory -/

namespace Memory

variable {m : Memory} {a v : UInt32}

/-- The widths agree on a word.  A narrow load inside of it answers with the bytes of the word that
lie there, and after a narrow store inside of it the word has some new bytes there and its old ones
everywhere else. -/
structure WidthsAgree (m : Memory) (a v : UInt32) : Prop where
  load : ∀ (width : AccessWidth) (k : Nat), k % width.bytes = 0 → k + width.bytes ≤ 4 →
    m.read width (a + UInt32.ofNat k) = .ok ((v >>> UInt32.ofNat (8 * k)) &&& width.mask)
  store : ∀ (width : AccessWidth) (k : Nat) (value : UInt32), k % width.bytes = 0 →
    k + width.bytes ≤ 4 →
      (m.write width (a + UInt32.ofNat k) value).fault = none ∧
        ∃ v', (m.write width (a + UInt32.ofNat k) value).state.read .word a = .ok v' ∧
          ∀ j < 4, lane v' j = lane v j ∨
            (k ≤ j ∧ j < k + width.bytes ∧ lane v' j = lane value (j - k))

/-- The cache-control register lies at its number. -/
theorem physical_eq_cacheControl_iff :
    physical a = 0x1FFE0130 ↔ a.toNat % 0x20000000 = 0x1FFE0130 := by
  rw [← UInt32.toNat_inj, toNat_physical]
  rfl

/-- No other place in a word is the cache-control register. -/
theorem physical_within {k : Nat} (ha : a.toNat % 4 = 0) (hk : k < 4)
    (h : physical a ≠ 0x1FFE0130) : physical (a + UInt32.ofNat k) ≠ 0x1FFE0130 := by
  rw [Ne, physical_eq_cacheControl_iff] at h ⊢
  rw [toNat_within ha hk]
  omega

/-- **Away from the cache-control register** the widths agree. -/
theorem widthsAgree_of_ne (hv : m.read .word a = .ok v) (h : physical a ≠ 0x1FFE0130) :
    m.WidthsAgree a v := by
  have hword : m.view.HasWord a v :=
    ByteStore.hasWord_of_load ((read_view m .word h).symm.trans hv)
  constructor
  · intro width k haligned hk
    rw [read_view m width (physical_within hword.aligned (AccessWidth.place_lt hk) h)]
    exact hword.load_within haligned hk
  · intro width k value haligned hk
    obtain ⟨hfault, hview⟩ := write_view m width value
      (physical_within hword.aligned (AccessWidth.place_lt hk) h)
    obtain ⟨haccepted, v', hword', hlanes⟩ := hword.store_within value haligned hk
    refine ⟨hfault.trans haccepted, v', ?_, hlanes⟩
    rw [read_view _ .word h, hview]
    exact hword'.load

/-- Behind the first address of the cache-control register nothing answers. -/
theorem read_behind_cacheControl (m : Memory) (h : physical a = 0x1FFE0130) :
    m.read .byte (a + 1) = .error (.unmapped (a + 1)) := by
  rw [physical_eq_cacheControl_iff] at h
  have hnext : physical (a + 1) = 0x1FFE0131 := by
    have hsum : (a + UInt32.ofNat 1).toNat = a.toNat + 1 := toNat_within (by omega) (by decide)
    rw [← UInt32.toNat_inj, toNat_physical]
    show (a + UInt32.ofNat 1).toNat % 0x20000000 = 0x1FFE0131
    omega
  refine m.read_of_vacant rfl ?_
  rw [vacant, hnext]
  rfl

/-- **The widths agree** on a word that memory answers with unless it is the cache-control
register. -/
theorem widths_agree_iff (hv : m.read .word a = .ok v) :
    m.WidthsAgree a v ↔ physical a ≠ 0x1FFE0130 := by
  refine ⟨fun h hcache => ?_, widthsAgree_of_ne hv⟩
  have hbyte : m.read .byte (a + 1) =
      .ok ((v >>> UInt32.ofNat (8 * 1)) &&& AccessWidth.byte.mask) := h.load .byte 1 rfl (by decide)
  rw [read_behind_cacheControl m hcache] at hbyte
  cases hbyte

theorem widths_agree_iff_ram :
    (blank.setRamWord 0x100 0x12345678).read .word 0x80000100 = .ok 0x12345678 ∧
      (blank.setRamWord 0x100 0x12345678).WidthsAgree 0x80000100 0x12345678 := by
  have hv : (blank.setRamWord 0x100 0x12345678).read .word 0x80000100 = .ok 0x12345678 := by
    rw [read_word_ram _ (by decide) (by decide)]
    exact congrArg Except.ok (ramWord_setRamWord_self blank 0x100 0x12345678)
  exact ⟨hv, (widths_agree_iff hv).2 (by decide)⟩

/-- **The cache-control register has no bytes.**  The word in it is read, but not its second byte;
and the store of a byte makes a whole word of that byte. -/
theorem cacheControl_bytes :
    ({ blank with cacheControl := 0x12345678 } : Memory).read .word 0xFFFE0130 = .ok 0x12345678 ∧
      ({ blank with cacheControl := 0x12345678 } : Memory).read .byte 0xFFFE0131 =
        .error (.unmapped 0xFFFE0131) ∧
      (({ blank with cacheControl := 0x12345678 } : Memory).write .byte 0xFFFE0130 0xAB).fault =
        none ∧
      (({ blank with cacheControl := 0x12345678 } : Memory).write .byte 0xFFFE0130 0xAB).state.read
        .word 0xFFFE0130 = .ok 0xAB :=
  ⟨rfl, rfl, rfl, rfl⟩

end Memory

end PlayStation

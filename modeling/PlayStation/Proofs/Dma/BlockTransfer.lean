/-
  BLOCK TRANSFERS.

  The countdown of a block transfer is nested: words of a block, and blocks.  Seen from outside it
  is a single one (`Block.left`): every word takes one off, whether a block ends with it or not
  (`of_next`), and with the last one the transfer is over (`next?_eq_none_iff`).  The words lie at
  the places from the base address on (`plan_block`).

  What a schedule does with a block transfer between RAM and the GPU follows (`run_block`): word
  after word is moved, in either direction, or nothing is done while the GPU is not ready.
-/
import PlayStation.Proofs.Dma.Alone

namespace PlayStation.Dma

open Memory (wordOffset)

/-! ## The countdown -/

namespace Block

/-- What holds of a block transfer that is not over. -/
structure Valid (b : Block) : Prop where
  remaining : 1 ≤ b.remaining
  within : b.remaining ≤ b.size
  blocks : 1 ≤ b.blocks
  address : b.address &&& ramWordMask = b.address
  step : b.step.toNat % 4 = 0

/-- The number of words left. -/
def left (b : Block) : Nat := (b.blocks - 1) * b.size + b.remaining

variable {b next : Block}

theorem left_pos (hb : b.Valid) : 1 ≤ b.left := Nat.le_trans hb.remaining (Nat.le_add_left _ _)

/-- The last word is the last one of the last block. -/
theorem left_eq_one_iff (hb : b.Valid) : b.left = 1 ↔ b.remaining = 1 ∧ b.blocks = 1 := by
  have hremaining := hb.remaining
  have hsize : 1 ≤ b.size := Nat.le_trans hb.remaining hb.within
  constructor
  · intro h
    have hone : b.remaining = 1 := by
      unfold left at h
      omega
    have hzero : (b.blocks - 1) * b.size = 0 := by
      unfold left at h
      omega
    rcases Nat.mul_eq_zero.1 hzero with hblocks | hempty
    · exact ⟨hone, Nat.le_antisymm (Nat.sub_eq_zero_iff_le.1 hblocks) hb.blocks⟩
    · rw [hempty] at hsize
      cases hsize
  · rintro ⟨hone, hblocks⟩
    rw [left, hone, hblocks, Nat.sub_self, Nat.zero_mul]

theorem isLast_eq (hb : b.Valid) : b.isLast = (b.left == 1) := by
  rw [Bool.eq_iff_iff, beq_iff_eq, left_eq_one_iff hb, isLast, Bool.and_eq_true, beq_iff_eq,
    beq_iff_eq]

/-- With the last word the transfer is over. -/
theorem next?_eq_none_iff (hb : b.Valid) : b.next? = none ↔ b.left = 1 := by
  rw [left_eq_one_iff hb, next?]
  by_cases hremaining : b.remaining = 1
  · rw [if_pos hremaining]
    by_cases hblocks : b.blocks = 1
    · rw [if_pos hblocks]
      exact ⟨fun _ => ⟨hremaining, hblocks⟩, fun _ => rfl⟩
    · rw [if_neg hblocks]
      exact ⟨nofun, fun h => absurd h.2 hblocks⟩
  · rw [if_neg hremaining]
    exact ⟨nofun, fun h => absurd h.1 hremaining⟩

theorem nextAddress_eq (hb : b.Valid) : b.nextAddress = place b.address b.step 1 := by
  rw [← place_succ hb.step, place_zero, hb.address, nextAddress]

/-- **Every other word takes one off**, and leads to the next place. -/
theorem of_next (hb : b.Valid) (h : b.next? = some next) :
    next.Valid ∧ b.left = next.left + 1 ∧ next.address = b.nextAddress ∧ next.step = b.step := by
  have hremaining := hb.remaining
  have hwithin := hb.within
  have hblocks := hb.blocks
  have hmasked : b.nextAddress &&& ramWordMask = b.nextAddress := masked_masked _
  unfold next? at h
  by_cases hone : b.remaining = 1
  · rw [if_pos hone] at h
    by_cases hlast : b.blocks = 1
    · rw [if_pos hlast] at h
      cases h
    · rw [if_neg hlast] at h
      cases h
      refine ⟨⟨?_, Nat.le_refl _, ?_, hmasked, hb.step⟩, ?_, rfl, rfl⟩
      · show 1 ≤ b.size
        omega
      · show 1 ≤ b.blocks - 1
        omega
      · -- a block more or less is its size more or less
        show (b.blocks - 1) * b.size + b.remaining = (b.blocks - 1 - 1) * b.size + b.size + 1
        obtain ⟨count, hcount⟩ : ∃ count, b.blocks = count + 2 := ⟨b.blocks - 2, by omega⟩
        rw [hcount, hone]
        show (count + 1) * b.size + 1 = count * b.size + b.size + 1
        rw [Nat.succ_mul]
  · rw [if_neg hone] at h
    cases h
    refine ⟨⟨?_, ?_, hblocks, hmasked, hb.step⟩, ?_, rfl, rfl⟩
    · show 1 ≤ b.remaining - 1
      omega
    · show b.remaining - 1 ≤ b.size
      omega
    · show (b.blocks - 1) * b.size + b.remaining = (b.blocks - 1) * b.size + (b.remaining - 1) + 1
      omega

end Block

/-! ## The plan -/

namespace Channel

/-- The channel when its transfer is over, at an address. -/
def ended (c : Channel) (madr : UInt32) : Channel := { c.finish with madr }

/-- What a block transfer between RAM and the GPU does with the word at an address. -/
def gpuAccess (c : Channel) (address : UInt32) : Access :=
  match c.direction with
  | .fromRam => .push address
  | .toRam => .pull address

/-- What any block transfer does with the word at an address. -/
def blockAccess (c : Channel) (address : UInt32) (last : Bool) : Access :=
  if c.device = .otc then
    .entry address (if last then listEnd else (address - 4) &&& ramWordMask)
  else c.gpuAccess address

variable {c d : Channel} {i : ChannelIndex} {m : Memory}

theorem ended_of_settings (h : c.settings = d.settings) (madr : UInt32) :
    c.ended madr = d.ended madr := by
  have hcontrol : c.chcr &&& ~~~startBits = d.chcr &&& ~~~startBits :=
    congrArg Settings.control h
  show Channel.mk c.device madr c.brc (c.chcr &&& ~~~startBits) none = _
  rw [device_of_settings h, brc_of_settings h, hcontrol]
  rfl

theorem blockAccess_of_settings (h : c.settings = d.settings) (address : UInt32) (last : Bool) :
    c.blockAccess address last = d.blockAccess address last := by
  rw [blockAccess, blockAccess, gpuAccess, gpuAccess, device_of_settings h,
    direction_of_settings h]

/-- An address within RAM is one of 24 bits. -/
theorem setMadr_masked (c : Channel) (address : UInt32) :
    c.setMadr (address &&& ramWordMask) = { c with madr := address &&& ramWordMask } := by
  rw [setMadr, UInt32.and_assoc]
  rfl

/-- **The plan of a block transfer**: a word at each place. -/
theorem plan_block (n : Nat) : ∀ {c : Channel} {b : Block}, c.busy = true →
    c.transfer = some (.block b) → b.Valid → b.left = n →
    Plan m i c
      ((List.range n).map fun k => c.blockAccess (place b.address b.step k) (k + 1 == n))
      (c.ended (place b.address b.step n)) := by
  -- on the words left, with the base address moving along: the places count from the next word on
  induction n with
  | zero =>
    intro c b _ _ hb hleft
    have hpos := b.left_pos hb
    omega
  | succ n ih =>
    intro c b hbusy htransfer hb hleft
    have hstarted : started? c i = some c := by
      rw [started?, inFlight, htransfer]
      rfl
    have hplace : place b.address b.step 0 = b.address := by rw [place_zero, hb.address]
    have haccess : c.access? =
        some (c.blockAccess (place b.address b.step 0) (0 + 1 == n + 1)) := by
      have hlast : (0 + 1 == n + 1) = b.isLast := by
        rw [Block.isLast_eq hb, hleft, Bool.eq_iff_iff, beq_iff_eq, beq_iff_eq]
        omega
      rw [hlast, hplace, access?, htransfer, blockAccess, gpuAccess]
      simp only [tableEntry]
      split
      · rfl
      · cases c.direction <;> rfl
    rw [List.range_succ_eq_map, List.map_cons, List.map_map]
    refine .access hbusy hstarted haccess ?_
    have hpassed : c.setMadr b.nextAddress = { c with madr := place b.address b.step 1 } := by
      rw [Block.nextAddress_eq hb]
      exact c.setMadr_masked _
    cases hnext : b.next? with
    | none =>
      -- the last word
      obtain rfl : n = 0 := by
        have hone := (Block.next?_eq_none_iff hb).1 hnext
        omega
      have hserve : c.serve m = c.ended (place b.address b.step 1) := by
        rw [serve, pass, htransfer]
        simp only [passBlock, hnext, hpassed]
        rfl
      rw [hserve]
      exact .idle c.busy_finish
    | some next =>
      obtain ⟨hvalid, hcount, haddress, hstep⟩ := Block.of_next hb hnext
      have hserve : c.serve m =
          { c with madr := place b.address b.step 1, transfer := some (.block next) } := by
        rw [serve, pass, htransfer]
        simp only [passBlock, hnext, hpassed]
        rfl
      have hrest := ih (c := c.serve m) (b := next) (by rw [hserve]; exact hbusy)
        (by rw [hserve]) hvalid (by omega)
      have hplaces : ∀ k, place next.address next.step k = place b.address b.step (k + 1) := by
        intro k
        rw [haddress, hstep, Block.nextAddress_eq hb, place_place hb.step]
      have hlast : ∀ k, (k + 1 == n) = (k + 1 + 1 == n + 1) := by
        intro k
        rw [Bool.eq_iff_iff, beq_iff_eq, beq_iff_eq, Nat.add_right_cancel_iff]
      have hsettings : (c.serve m).settings = c.settings := c.settings_serve m
      simp only [hplaces, hlast, blockAccess_of_settings hsettings,
        ended_of_settings hsettings] at hrest
      exact hrest

/-! ## Transfers that are asked for -/

theorem blockSize_pos (c : Channel) : 1 ≤ c.blockSize := by
  unfold blockSize
  simp only
  split <;> omega

theorem blockSize_le (c : Channel) : c.blockSize ≤ 0x10000 := by
  have hfield : Word.field c.brc 0 16 < 0x10000 := Nat.mod_lt _ (by decide)
  unfold blockSize
  simp only
  split <;> omega

theorem blockCount_pos (c : Channel) : 1 ≤ c.blockCount := by
  unfold blockCount
  simp only
  split <;> omega

theorem blockCount_le (c : Channel) : c.blockCount ≤ 0x10000 := by
  have hfield : Word.field c.brc 16 16 < 0x10000 := Nat.mod_lt _ (by decide)
  unfold blockCount
  simp only
  split <;> omega

/-- The number of blocks: one, unless the device sets the pace. -/
def blocks (c : Channel) : Nat :=
  match c.syncMode with
  | .request => c.blockCount
  | .manual | .linkedList | .reserved => 1

theorem blocks_pos (c : Channel) : 1 ≤ c.blocks := by
  unfold blocks
  cases c.syncMode with
  | request => exact c.blockCount_pos
  | _ => exact Nat.le_refl 1

/-- The number of words that a block transfer moves. -/
def words (c : Channel) : Nat := c.blockSize * c.blocks

/-- The address of a word. -/
def wordPlace (c : Channel) (k : Nat) : UInt32 := place c.madr c.addressStep k

theorem addressStep_eq (c : Channel) : c.addressStep = up ∨ c.addressStep = down := by
  unfold addressStep
  split
  · exact .inr rfl
  · exact .inl rfl

theorem addressStep_mod (c : Channel) : c.addressStep.toNat % 4 = 0 := by
  rcases c.addressStep_eq with h | h <;> rw [h] <;> rfl

/-- The plan of a channel that will begin with a block transfer. -/
theorem plan_of_latch {step : UInt32} {count : Nat} (hfresh : c.Fresh)
    (hstep : step.toNat % 4 = 0) (hcount : 1 ≤ count)
    (hlatch : c.latch i =
      .ok (.block ⟨c.madr &&& ramWordMask, step, c.blockSize, c.blockSize, count⟩)) :
    Plan m i c
      ((List.range (c.blockSize * count)).map fun k =>
        c.blockAccess (place c.madr step k) (k + 1 == c.blockSize * count))
      (c.ended (place c.madr step (c.blockSize * count))) := by
  let b : Block := ⟨c.madr &&& ramWordMask, step, c.blockSize, c.blockSize, count⟩
  have hstarted : started? c i = some (c.start (.block b)) := by
    rw [started?, inFlight, hfresh.idle, hlatch]
    rfl
  have hvalid : b.Valid :=
    ⟨c.blockSize_pos, Nat.le_refl _, hcount, masked_masked _, hstep⟩
  have hleft : b.left = c.blockSize * count := by
    obtain ⟨more, rfl⟩ : ∃ more, count = more + 1 := ⟨count - 1, by omega⟩
    show (more + 1 - 1) * c.blockSize + c.blockSize = _
    rw [Nat.add_sub_cancel, Nat.mul_succ, Nat.mul_comm]
  have hplan := plan_block (m := m) (i := i) (c := c.start (.block b)) (c.blockSize * count)
    ((busy_started hstarted).trans hfresh.busy) rfl hvalid hleft
  have hplace : ∀ k, place b.address b.step k = place c.madr step k :=
    fun k => place_masked hstep k
  have hsettings : (c.start (.block b)).settings = c.settings := c.settings_start _
  simp only [hplace, blockAccess_of_settings hsettings, ended_of_settings hsettings] at hplan
  exact hplan.of_begun hstarted hfresh.busy

/-- What a channel asks for that is to move blocks between RAM and the GPU. -/
theorem latch_gpu (hdevice : c.device = .gpu)
    (hmode : c.syncMode = .manual ∨ c.syncMode = .request) (i : ChannelIndex) :
    c.latch i = .ok (.block
      ⟨c.madr &&& ramWordMask, c.addressStep, c.blockSize, c.blockSize, c.blocks⟩) := by
  unfold latch blocks
  rcases hmode with hmanual | hrequest
  · rw [hdevice, hmanual]
  · rw [hdevice, hrequest]

/-- The plan of a channel that is to move blocks between RAM and the GPU. -/
theorem plan_gpu (hfresh : c.Fresh) (hdevice : c.device = .gpu)
    (hmode : c.syncMode = .manual ∨ c.syncMode = .request) :
    Plan m i c ((List.range c.words).map fun k => c.gpuAccess (c.wordPlace k))
      (c.ended (c.wordPlace c.words)) := by
  have hplan := plan_of_latch (m := m) hfresh c.addressStep_mod c.blocks_pos
    (latch_gpu hdevice hmode i)
  have haccess : ∀ address last, c.blockAccess address last = c.gpuAccess address :=
    fun address last => if_neg (by rw [hdevice]; decide)
  simp only [haccess] at hplan
  exact hplan

theorem gpuAccess_stores (c : Channel) (address : UInt32) :
    (c.gpuAccess address).stores = decide (c.direction = .toRam) := by
  unfold gpuAccess
  cases c.direction <;> rfl

/-- All of these accesses look at the same flags. -/
theorem waitsFor_gpuAccess (c : Channel) (address : UInt32) (gpu : Gpu) :
    c.waitsFor (c.gpuAccess address) gpu = c.blockWaits gpu := by
  unfold gpuAccess
  cases c.direction <;> rfl

theorem gpuAccess_address (c : Channel) (address : UInt32) :
    (c.gpuAccess address).address = address := by
  unfold gpuAccess
  cases c.direction <;> rfl

end Channel

/-! ## Schedules -/

/-- How far a block transfer between RAM and the GPU, which was to begin in `s`, has come in `u`
with `k` words moved. -/
structure BlockRun (s u : System) (k : Nat) : Prop where
  bound : k ≤ (s.channel 2).words
  /-- The channel is busy until all the words are moved. -/
  busy : (u.channel 2).busy = decide (k < (s.channel 2).words)
  /-- Then its address is behind the last of them, the start bits are clear, and no more words are
  moved. -/
  finished : k = (s.channel 2).words →
    (u.channel 2).madr = (s.channel 2).wordPlace k ∧ (u.channel 2).busy = false ∧
      (u.channel 2).trigger = false ∧ u.cycle? = none
  /-- Words at other places than those passed, or on the way to the GPU, are what they were. -/
  untouched : ∀ address,
    ((s.channel 2).direction = .toRam →
      ∀ j < k, wordOffset ((s.channel 2).wordPlace j) ≠ wordOffset address) →
    u.memory.ramWord address = s.memory.ramWord address
  /-- While the GPU is not ready, a step does nothing, but that it clears the trigger at first. -/
  waiting : k < (s.channel 2).words → (s.channel 2).blockWaits u.gpu = true →
    u.cycle? = none ∧ (u.move .dma).memory = u.memory ∧ (u.move .dma).gpu = u.gpu ∧
      ((u.move .dma).channel 2).madr = (u.channel 2).madr ∧
      ((u.move .dma).channel 2).brc = (u.channel 2).brc ∧
      ((u.move .dma).channel 2).chcr =
        if (u.channel 2).inFlight then (u.channel 2).chcr
        else Word.withBit (u.channel 2).chcr 28 false
  /-- If not, a step queues the next word with the GPU. -/
  pushes : k < (s.channel 2).words → (s.channel 2).blockWaits u.gpu = false →
    (s.channel 2).direction = .fromRam →
    let address := (s.channel 2).wordPlace k
    let word := u.memory.ramWord address
    u.cycle? = some ⟨2, .push address, word⟩ ∧
      (u.move .dma).memory = u.memory ∧ (u.move .dma).gpu = u.gpu.queue word
  /-- Or it stores the next word that the GPU gives. -/
  pulls : k < (s.channel 2).words → (s.channel 2).blockWaits u.gpu = false →
    (s.channel 2).direction = .toRam →
    let address := (s.channel 2).wordPlace k
    let word := u.gpu.readWord.1
    u.cycle? = some ⟨2, .pull address, word⟩ ∧
      (u.move .dma).memory = u.memory.setRamWord address word ∧
      (u.move .dma).gpu = u.gpu.readWord.2

namespace System

/-- **Block transfers** move as many words as were asked for, one after the other, whatever the
order of steps and however often the GPU is not ready. -/
theorem run_block {s : System} (moves : List Move) (hreachable : Reachable s.dma)
    (hfresh : (s.channel 2).Fresh)
    (hmode : (s.channel 2).syncMode = .manual ∨ (s.channel 2).syncMode = .request)
    (halone : s.Alone 2) (hmoves : ∀ move ∈ moves, move.keepsDpcr = true) :
    BlockRun s (s.run moves) (s.log moves).length := by
  have hdevice : (s.channel 2).device = .gpu := (hreachable.sound 2).device
  let c := s.channel 2
  let as : List Access := (List.range c.words).map fun k => c.gpuAccess (c.wordPlace k)
  have hplan : Plan s.memory 2 c as (c.ended (c.wordPlace c.words)) :=
    Channel.plan_gpu hfresh hdevice hmode
  have hstores : ∀ a ∈ as, a.stores = decide (c.direction = .toRam) := by
    intro a ha
    obtain ⟨k, -, rfl⟩ := List.mem_map.1 ha
    exact c.gpuAccess_stores _
  have hrun := run_alone halone hmoves hplan
    fun a ha b hb => (hstores a ha).trans (hstores b hb).symm
  have hmemory := memory_run moves s
  have hlength : as.length = c.words := by rw [List.length_map, List.length_range]
  have hnth : ∀ {k}, k < c.words → as[k]? = some (c.gpuAccess (c.wordPlace k)) := by
    intro k hk
    rw [List.getElem?_map, List.getElem?_range hk]
    rfl
  -- from here on it does not matter what the schedule was
  generalize s.run moves = u at *
  generalize s.log moves = log at *
  refine ⟨hlength ▸ hrun.bound, hlength ▸ hrun.busy, ?_, ?_, ?_, ?_, ?_⟩
  · intro hall
    obtain ⟨hend, hfree⟩ := hrun.finished (hall.trans hlength.symm)
    rw [hend, hall]
    exact ⟨rfl, c.busy_finish, c.trigger_finish, cycle?_of_free hfree⟩
  · intro address hapart
    rw [hmemory]
    refine ramWord_stored_of_ne fun e he hstored => ?_
    obtain ⟨j, hj, hnumber⟩ := hrun.getElem?_of_mem he
    have haccess : e.access = c.gpuAccess (c.wordPlace j) :=
      Option.some.inj (hnumber.symm.trans (hnth (by have := hrun.bound; omega)))
    have hdirection : c.direction = .toRam := by
      rw [haccess, c.gpuAccess_stores] at hstored
      exact of_decide_eq_true hstored
    rw [haccess, c.gpuAccess_address]
    exact hapart hdirection j hj
  · intro hk hwait
    obtain ⟨hcycle, hstarted⟩ := hrun.waiting _ (hnth hk) ((c.waitsFor_gpuAccess _ _).trans hwait)
    exact ⟨hcycle, (move_of_idle hcycle).1, (move_of_idle hcycle).2,
      Channel.registers_started hstarted⟩
  · intro hk hready hdirection
    have hcycle := hrun.moving _ (hnth hk) ((c.waitsFor_gpuAccess _ _).trans hready)
    have haccess : c.gpuAccess (c.wordPlace log.length) = .push (c.wordPlace log.length) := by
      rw [Channel.gpuAccess, show c.direction = .fromRam from hdirection]
    rw [haccess] at hcycle
    exact ⟨hcycle, move_of_cycle hcycle⟩
  · intro hk hready hdirection
    have hcycle := hrun.moving _ (hnth hk) ((c.waitsFor_gpuAccess _ _).trans hready)
    have haccess : c.gpuAccess (c.wordPlace log.length) = .pull (c.wordPlace log.length) := by
      rw [Channel.gpuAccess, show c.direction = .toRam from hdirection]
    rw [haccess] at hcycle
    exact ⟨hcycle, move_of_cycle hcycle⟩

/-- Two blocks of three words from the GPU, down from the first word of RAM. -/
def download : System :=
  ⟨(enabling 0x07654B21).request gpuChannel 0 0x00020003 0x01000202, .blank,
    (({} : Gpu).perform (.poke 0 0 0x1111)).perform (.poke 1 0 0x2222)⟩

/-- DMA has to wait, and then the GPU is told to give three rows of four pixels. -/
def askForPixels : List Move :=
  [.dma, .gpu (.queue 0xC0000000), .gpu (.queue 0), .gpu (.queue 0x00030004), .gpu .step]

theorem run_block_download :
    let asked := download.run askForPixels
    let moves := askForPixels ++ List.replicate 6 .dma
    asked.cycle? = some ⟨2, .pull 0, 0x22221111⟩ ∧
      (asked.move .dma).memory.ramWord 0 = 0x22221111 ∧
      (download.log moves).length = 6 ∧
      ((download.run moves).channel 2).madr = 0x1FFFE8 ∧
      ((download.run moves).channel 2).busy = false ∧
      (download.run moves).memory.ramWord 0x100 = download.memory.ramWord 0x100 := by
  intro asked moves
  have hrun : ∀ schedule : List Move, (∀ move ∈ schedule, move.keepsDpcr = true) →
      BlockRun download (download.run schedule) (download.log schedule).length :=
    fun schedule hschedule => run_block schedule ((Reachable.enabling _).request 2 _ _ _)
      ⟨by decide, by decide⟩ (.inr (by decide)) (by decide) hschedule
  have hwords : (download.channel 2).words = 6 := by decide
  -- the first word is still to be moved, and the GPU has it
  have hnone : (download.log askForPixels).length = 0 := by decide +kernel
  have hready : (download.channel 2).blockWaits asked.gpu = false := by decide +kernel
  have hword : asked.gpu.readWord.1 = 0x22221111 := by decide +kernel
  have hbegun := hrun askForPixels (by decide)
  rw [hnone] at hbegun
  obtain ⟨hcycle, hstored, -⟩ := hbegun.pulls (by decide) hready (by decide)
  have hplace : (download.channel 2).wordPlace 0 = 0 := by decide
  rw [hword, hplace] at hcycle hstored
  -- then one word after the other
  have hall : (download.log moves).length = 6 := by decide +kernel
  have hend := hrun moves (by decide)
  rw [hall] at hend
  obtain ⟨hmadr, hfree, -, -⟩ := hend.finished hwords.symm
  refine ⟨hcycle, ?_, hall, hmadr.trans (by decide), hfree, ?_⟩
  · rw [hstored]
    exact Memory.ramWord_setRamWord_self _ _ _
  · exact hend.untouched 0x100 fun _ => by decide

end System

end PlayStation.Dma

/-
  BOUNDS: the numbers of a transfer under way.

  A transfer keeps its place in counts that are taken down and in addresses that RAM is indexed
  with, and neither is looked at before it is used.  That this goes well is an invariant of the
  controller.

  1. **The invariant** says of each channel which transfers it can have under way, and within which
     bounds their counts and addresses are (`Channel.InBounds`).

  2. **Every operation keeps it**: what begins is within bounds (`inBounds_of_latch`), a step goes
     on within them (`InBounds.pass`), and a write of a register replaces an address or drops the
     transfer.  One induction over operations follows (`Reachable.channel_inBounds`).

  3. **So the counts are never taken below zero**: the step of a channel in which this is an error
     (`Channel.pass?`) is the step (`Channel.pass?_eq`).
-/
import Mathlib.Data.Nat.PSub
import PlayStation.Proofs.Dma.BlockTransfer

namespace PlayStation.Dma

/-! ## Addresses -/

/-- The address of a word in the 2 MB of RAM. -/
structure InRam (address : UInt32) : Prop where
  aligned : address.toNat % 4 = 0
  lt : address.toNat < 0x200000

theorem inRam_masked (address : UInt32) : InRam (address &&& ramWordMask) := by
  have hoffset : (address &&& ramWordMask).toNat = 4 * (address.toNat / 4 % 0x80000) := by
    rw [toNat_masked, Memory.wordOffset_eq]
  constructor <;> omega

/-- The pointers that packets and registers have are of 24 bits. -/
theorem toNat_pointer_lt (w : UInt32) : (w &&& 0xFFFFFF).toNat < 2 ^ 24 := by
  have hle : (w &&& 0xFFFFFF).toNat ≤ 0xFFFFFF := by
    rw [UInt32.toNat_and]
    exact Nat.and_le_right
  omega

/-! ## Transfers within bounds -/

/-- What holds of a block transfer under way. -/
structure Block.InBounds (b : Block) : Prop where
  address : InRam b.address
  step : b.step = up ∨ b.step = down
  remaining : 1 ≤ b.remaining ∧ b.remaining ≤ b.size
  size : b.size ≤ 0x10000
  blocks : 1 ≤ b.blocks ∧ b.blocks ≤ 0x10000

/-- What holds of the place in a packet. -/
def ListPhase.InBounds : ListPhase → Prop
  | .header => True
  | .payload remaining next => 1 ≤ remaining ∧ remaining ≤ 255 ∧ next.toNat < 2 ^ 24

/-- What holds of the transfer of a channel. -/
def Transfer.InBounds (i : ChannelIndex) : Transfer → Prop
  | .block b => (i = gpuChannel ∨ i = tableChannel) ∧ b.InBounds
  | .list address phase => i = gpuChannel ∧ InRam address ∧ phase.InBounds

/-- What holds of a channel. -/
structure Channel.InBounds (c : Channel) (i : ChannelIndex) : Prop where
  madr : c.madr.toNat < 2 ^ 24
  busy : c.transfer ≠ none → c.busy = true
  transfer : ∀ t, c.transfer = some t → t.InBounds i

/-- The countdown of a block transfer stays within bounds. -/
theorem Block.InBounds.next {b next : Block} (hb : b.InBounds) (h : b.next? = some next) :
    next.InBounds := by
  obtain ⟨hlow, hhigh⟩ := hb.remaining
  obtain ⟨hone, hmany⟩ := hb.blocks
  have hsize := hb.size
  unfold next? at h
  by_cases hlast : b.remaining = 1
  · rw [if_pos hlast] at h
    by_cases hdone : b.blocks = 1
    · rw [if_pos hdone] at h
      cases h
    · -- a block is over, and another one begins
      rw [if_neg hdone] at h
      cases h
      refine ⟨inRam_masked _, hb.step, ⟨?_, Nat.le_refl _⟩, hsize, ?_, ?_⟩
      · show 1 ≤ b.size
        omega
      · show 1 ≤ b.blocks - 1
        omega
      · show b.blocks - 1 ≤ 0x10000
        omega
  · rw [if_neg hlast] at h
    cases h
    refine ⟨inRam_masked _, hb.step, ⟨?_, ?_⟩, hsize, hb.blocks⟩
    · show 1 ≤ b.remaining - 1
      omega
    · show b.remaining - 1 ≤ b.size
      omega

namespace Channel

variable {c d : Channel} {i : ChannelIndex}

/-! ## What begins -/

/-- Only the channels of the two devices that move words begin a transfer, and it is within
bounds. -/
theorem inBounds_of_latch (hdevice : c.device = .ofChannel i.val) {transfer : Transfer}
    (h : c.latch i = .ok transfer) : transfer.InBounds i := by
  have hwired : ∀ j : ChannelIndex, (Device.ofChannel j.val = .gpu → j = gpuChannel) ∧
      (Device.ofChannel j.val = .otc → j = tableChannel) := by decide
  have hgpu : c.device = .gpu → i = gpuChannel := fun hc => (hwired i).1 (hdevice ▸ hc)
  have hotc : c.device = .otc → i = tableChannel := fun hc => (hwired i).2 (hdevice ▸ hc)
  have hblock : ∀ {step : UInt32} {count : Nat}, step = up ∨ step = down → 1 ≤ count →
      count ≤ 0x10000 →
      Block.InBounds ⟨c.madr &&& ramWordMask, step, c.blockSize, c.blockSize, count⟩ :=
    fun hstep hpos hle =>
      ⟨inRam_masked _, hstep, ⟨c.blockSize_pos, Nat.le_refl _⟩, c.blockSize_le, hpos, hle⟩
  unfold latch at h
  simp only at h
  split at h
  case h_1 hc _ _ =>
    cases h
    exact ⟨.inr (hotc hc), hblock (.inr rfl) (Nat.le_refl 1) (by decide)⟩
  case h_2 hc _ =>
    cases h
    exact ⟨.inl (hgpu hc), hblock c.addressStep_eq (Nat.le_refl 1) (by decide)⟩
  case h_3 hc _ =>
    cases h
    exact ⟨.inl (hgpu hc), hblock c.addressStep_eq c.blockCount_pos c.blockCount_le⟩
  case h_4 hc _ _ =>
    cases h
    exact ⟨hgpu hc, inRam_masked _, trivial⟩
  case h_5 => cases h

/-- The transfer that a step goes on with is within bounds, whether it was under way or begins. -/
theorem InBounds.started (hc : c.InBounds i) (hsound : c.Sound i)
    (h : started? c i = some d) : ∀ t, d.transfer = some t → t.InBounds i := by
  rcases started?_eq_some h with ⟨-, rfl⟩ | ⟨-, transfer, hlatch, rfl⟩
  · exact hc.transfer
  · intro t ht
    cases ht
    exact inBounds_of_latch hsound.device hlatch

/-! ## What goes on -/

/-- Address and transfer are replaced by others within bounds, while the channel is busy. -/
theorem InBounds.goOn (hbusy : c.busy = true) {madr : UInt32} {transfer : Option Transfer}
    (hmadr : madr.toNat < 2 ^ 24) (htransfer : ∀ t, transfer = some t → t.InBounds i) :
    InBounds { c with madr, transfer } i where
  madr := hmadr
  busy _ := hbusy
  transfer := htransfer

theorem inBounds_follow (hbusy : c.busy = true) (next : UInt32) :
    (c.follow next).2.InBounds gpuChannel := by
  have hmadr : (next &&& 0xFFFFFF).toNat < 2 ^ 24 := toNat_pointer_lt next
  unfold follow
  split
  · exact .goOn hbusy hmadr nofun
  · refine .goOn hbusy hmadr fun t ht => ?_
    cases ht
    exact ⟨rfl, inRam_masked _, trivial⟩

/-- The number of payload words has eight bits, and the pointer of a packet has 24. -/
theorem InBounds.readHeader (hc : c.InBounds gpuChannel) (hbusy : c.busy = true)
    (address header : UInt32) : (c.readHeader address header).2.InBounds gpuChannel := by
  have hcount : Word.field header 24 8 < 256 := Nat.mod_lt _ (by decide)
  unfold Channel.readHeader
  simp only
  split
  · exact inBounds_follow hbusy _
  · next hsome =>
    refine .goOn hbusy hc.madr fun t ht => ?_
    cases ht
    exact ⟨rfl, inRam_masked _, by omega, by omega, toNat_pointer_lt header⟩

theorem InBounds.passPayload (hc : c.InBounds gpuChannel) (hbusy : c.busy = true)
    {remaining : Nat} {next : UInt32} (h : ListPhase.InBounds (.payload remaining next))
    (address : UInt32) : (c.passPayload address remaining next).2.InBounds gpuChannel := by
  obtain ⟨hlow, hhigh, hnext⟩ := h
  unfold Channel.passPayload
  split
  · exact inBounds_follow hbusy next
  · refine .goOn hbusy hc.madr fun t ht => ?_
    cases ht
    exact ⟨rfl, inRam_masked _, by omega, by omega, hnext⟩

theorem inBounds_passBlock (hbusy : c.busy = true) {b : Block}
    (h : Transfer.InBounds i (.block b)) : (c.passBlock b).2.InBounds i := by
  have hmadr : (b.nextAddress &&& 0xFFFFFF).toNat < 2 ^ 24 := toNat_pointer_lt _
  unfold passBlock
  cases hnext : b.next? with
  | none => exact .goOn hbusy hmadr nofun
  | some next =>
    refine .goOn hbusy hmadr fun t ht => ?_
    cases ht
    exact ⟨h.1, h.2.next hnext⟩

/-- **An access** keeps a busy channel within bounds. -/
theorem InBounds.pass (hc : c.InBounds i) (hbusy : c.busy = true) (memory : Memory) :
    (c.pass memory).2.InBounds i := by
  unfold Channel.pass
  split
  case h_1 => exact hc
  case h_2 b hb => exact inBounds_passBlock hbusy (hc.transfer _ hb)
  case h_3 address hlist =>
    obtain ⟨rfl, -, -⟩ := hc.transfer _ hlist
    exact hc.readHeader hbusy address _
  case h_4 address remaining next hlist =>
    obtain ⟨rfl, -, hphase⟩ := hc.transfer _ hlist
    exact hc.passPayload hbusy hphase address

theorem InBounds.finish (hc : c.InBounds i) : c.finish.InBounds i where
  madr := hc.madr
  busy h := absurd rfl h
  transfer _ h := nomatch h

/-- **A step** of a busy channel keeps it within bounds. -/
theorem InBounds.stepped (hc : c.InBounds i) (hsound : c.Sound i) (hbusy : c.busy = true)
    (memory : Memory) (gpu : Gpu) : (c.stepped i memory gpu).InBounds i := by
  cases hstarted : started? c i with
  | none =>
    rw [(step_of_refused hstarted).2]
    exact hc.finish
  | some d =>
    have hdbusy : d.busy = true := (busy_started hstarted).trans hbusy
    have hd : d.InBounds i := by
      refine ⟨?_, fun _ => hdbusy, hc.started hsound hstarted⟩
      rw [(registers_started hstarted).1]
      exact hc.madr
    cases hwaits : d.waits gpu with
    | true =>
      rw [(step_of_waits hstarted hwaits).2]
      exact hd
    | false =>
      have hpassed := hd.pass hdbusy memory
      rw [(step_of_ready hstarted hwaits).2]
      rcases d.serve_cases memory with hserve | hserve <;> rw [hserve]
      · exact hpassed
      · exact hpassed.finish

/-- A write of the control word leaves a transfer under way only with the busy bit. -/
theorem InBounds.setControl (hc : c.InBounds i) (value : UInt32) :
    (c.setControl value).InBounds i := by
  let chcr := if c.device = .otc then value &&& tableControl else value
  have htransfer : ∀ t, (c.setControl value).transfer = some t →
      Word.bit chcr 24 = true ∧ c.transfer = some t := by
    intro t ht
    have hsome : (if Word.bit chcr 24 then c.transfer else none) = some t := ht
    split at hsome
    · next hbit => exact ⟨hbit, hsome⟩
    · cases hsome
  refine ⟨hc.madr, fun h => ?_, fun t ht => hc.transfer t (htransfer t ht).2⟩
  obtain ⟨t, ht⟩ := Option.ne_none_iff_exists'.1 h
  exact (htransfer t ht).1

end Channel

/-! ## Controllers -/

/-- Every channel is within bounds. -/
def InBounds (dma : Dma) : Prop := ∀ i, (dma.channel i).InBounds i

theorem InBounds.setChannel {dma : Dma} (h : InBounds dma) {i : ChannelIndex} {c : Channel}
    (hc : c.InBounds i) : InBounds (dma.setChannel i c) := by
  intro j
  rw [channel_setChannel]
  split
  · next hij => exact hij ▸ hc
  · exact h j

theorem inBounds_reset : InBounds .reset := by
  intro i
  have hidle : Dma.reset.channel i = { device := .ofChannel i.val } :=
    Vector.getElem_ofFn i.isLt
  rw [hidle]
  have hzero : (0 : UInt32).toNat < 2 ^ 24 := by decide
  exact ⟨hzero, fun h => absurd rfl h, nofun⟩

theorem InBounds.write {dma : Dma} (h : InBounds dma) (offset value : UInt32) :
    InBounds (dma.write offset value) := by
  unfold Dma.write
  cases Register.ofOffset offset with
  | madr i => exact h.setChannel ⟨toNat_pointer_lt value, (h i).busy, (h i).transfer⟩
  | brc i => exact h.setChannel ⟨(h i).madr, (h i).busy, (h i).transfer⟩
  | chcr i => exact h.setChannel ((h i).setControl value)
  | dpcr => exact h
  | dicr => exact h
  | unused offset => exact h

theorem InBounds.step {dma : Dma} (h : InBounds dma) (hsound : Sound dma) (memory : Memory)
    (gpu : Gpu) : InBounds (dma.step memory gpu).2.1 := by
  intro j
  have hchannel := System.channel_move_dma ⟨dma, memory, gpu⟩ j
  show Channel.InBounds (System.channel (System.move ⟨dma, memory, gpu⟩ .dma) j) j
  rw [hchannel]
  split
  · next hselect =>
    have hbusy : (dma.channel j).busy = true :=
      (System.enabled_and_busy (s := ⟨dma, memory, gpu⟩) hselect).2
    exact (h j).stepped (hsound j) hbusy memory gpu
  · exact h j

/-- **Every channel of a reachable controller is within bounds.** -/
theorem Reachable.channel_inBounds {dma : Dma} (h : Reachable dma) : InBounds dma := by
  induction h with
  | reset => exact inBounds_reset
  | perform o h ih =>
    cases o with
    | write offset value => exact ih.write offset value
    | writeLanes offset value lanes => exact ih.write offset _
    | step memory gpu => exact ih.step h.sound memory gpu
    | reset => exact inBounds_reset

/-! ## Counts that are looked at -/

namespace Block

/-- The counts behind the next word, words left and blocks left: none where one of them would be
taken below zero. -/
def countDown? (b : Block) : Option (Nat × Nat) := do
  match ← b.remaining.ppred with
  | 0 => return (b.size, ← b.blocks.ppred)
  | left => return (left, b.blocks)

/-- The place behind the next word, with these counts: none when no blocks are left. -/
def withCounts (b : Block) : Nat × Nat → Option Block
  | (_, 0) => none
  | (remaining, blocks) => some { b with address := b.nextAddress, remaining, blocks }

theorem InBounds.countDown? {b : Block} (hb : b.InBounds) :
    b.countDown?.map b.withCounts = some b.next? := by
  obtain ⟨address, step, size, remaining, blocks⟩ := b
  obtain ⟨left, rfl⟩ : ∃ left, remaining = left + 1 := ⟨remaining - 1, by
    have hlow : 1 ≤ remaining := hb.remaining.1
    omega⟩
  obtain ⟨others, rfl⟩ : ∃ others, blocks = others + 1 := ⟨blocks - 1, by
    have hone : 1 ≤ blocks := hb.blocks.1
    omega⟩
  cases left with
  | zero => cases others <;> rfl
  | succ left => rfl

end Block

namespace Channel

/-- `pass`, where a count that is taken below zero is an error. -/
def pass? (c : Channel) (memory : Memory) : Option (Progress × Channel) :=
  match c.transfer with
  | none => some (.complete, c)
  | some (.block b) => do
    match ← b.countDown?.map b.withCounts with
    | none => return (.complete, { c.setMadr b.nextAddress with transfer := none })
    | some next => return (.busy, { c.setMadr b.nextAddress with transfer := some (.block next) })
  | some (.list address .header) => some (c.readHeader address (memory.ramWord address))
  | some (.list address (.payload remaining next)) => do
    match ← remaining.ppred with
    | 0 => return c.follow next
    | left =>
      let transfer := .list ((address + 4) &&& ramWordMask) (.payload left next)
      return (.busy, { c with transfer := some transfer })

variable {c : Channel} {i : ChannelIndex} (h : ∀ t, c.transfer = some t → t.InBounds i)
include h

/-- **Within bounds** the check makes no difference. -/
theorem pass?_eq (memory : Memory) : c.pass? memory = some (c.pass memory) := by
  rw [pass?, pass]
  cases htransfer : c.transfer with
  | none => rfl
  | some transfer =>
    have hbounds := h transfer htransfer
    cases transfer with
    | block b =>
      simp only [hbounds.2.countDown?, passBlock]
      cases b.next? <;> rfl
    | list address phase =>
      cases phase with
      | header => rfl
      | payload remaining next =>
        obtain ⟨-, -, hlow, -⟩ := hbounds
        obtain ⟨left, rfl⟩ : ∃ left, remaining = left + 1 := ⟨remaining - 1, by omega⟩
        cases left <;> rfl

/-- Within bounds the next access is one to a word of RAM. -/
theorem inRam_access {a : Access} (ha : c.access? = some a) : InRam a.address := by
  rw [access?] at ha
  cases htransfer : c.transfer with
  | none =>
    rw [htransfer] at ha
    cases ha
  | some transfer =>
    have hbounds := h transfer htransfer
    rw [htransfer] at ha
    cases transfer with
    | block b =>
      have hb : InRam b.address := hbounds.2.address
      simp only at ha
      split at ha
      · cases ha
        exact hb
      · split at ha <;> cases ha <;> exact hb
    | list address phase => cases phase <;> cases ha <;> exact hbounds.2.1

end Channel

/-! ## Reachable controllers -/

/-- **Bounds of a DMA controller.** -/
theorem Reachable.inBounds {dma : Dma} (h : Reachable dma) :
    (∀ i, (dma.channel i).InBounds i) ∧
    (dma.channel tableChannel).chcr &&& ~~~tableControl = 0 ∧
    (∀ i c memory, started? (dma.channel i) i = some c → c.pass? memory = some (c.pass memory)) ∧
    ∀ memory gpu e, System.cycle? ⟨dma, memory, gpu⟩ = some e →
      e.access.address.toNat % 4 = 0 ∧ e.access.address.toNat + 4 ≤ ramSize := by
  have hbounds := h.channel_inBounds
  have hstart : ∀ {i c}, started? (dma.channel i) i = some c →
      ∀ t, c.transfer = some t → t.InBounds i :=
    fun hstarted => (hbounds _).started (h.sound _) hstarted
  refine ⟨hbounds, ?_, fun i c memory hstarted => ?_, fun memory gpu e he => ?_⟩
  · exact (h.sound tableChannel).control (h.sound tableChannel).device
  · exact Channel.pass?_eq (hstart hstarted) memory
  · obtain ⟨c, -, hstarted, haccess, -⟩ := System.access_of_cycle? he
    obtain ⟨haligned, hlt⟩ := Channel.inRam_access (hstart hstarted) haccess
    refine ⟨haligned, ?_⟩
    rw [ramSize]
    omega

/-- Channel 6 is asked for a table of 0x10000 entries, down from address 0, and a step is made. -/
def tableBegun : Dma :=
  ((enabling 0x0F654321).request tableChannel 0 0 0x11000002).perform (.step .blank {})

theorem inBounds_tableBegun :
    (tableBegun.channel tableChannel).transfer =
      some (.block ⟨0x1FFFFC, down, 0x10000, 0xFFFF, 1⟩) ∧
    (tableBegun.channel tableChannel).InBounds tableChannel :=
  ⟨by decide,
    (((Reachable.enabling 0x0F654321).request tableChannel 0 0 0x11000002).perform
      (.step .blank {})).inBounds.1 tableChannel⟩

end PlayStation.Dma

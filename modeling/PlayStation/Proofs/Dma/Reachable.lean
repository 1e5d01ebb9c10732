/-
  The states a DMA controller can be in.

  A controller is written to, takes steps beside some memory and some GPU, and is reset.  An
  `Operation` is one of these, and a state is `Reachable` when some operations lead to it.  In all
  of them every channel is `Sound`: it is wired to its device, the ordering-table channel stores
  none of the bits it does not have, and only the two channels that can move words at all have a
  transfer under way (`Reachable.sound`).

  A step changes little of a channel: device, block sizes and all of the control word but the start
  bits stay as they are (`Channel.settings`, `settings_stepped`).
-/
import PlayStation.Proofs.Bits
import PlayStation.Proofs.Dma.Traffic

namespace PlayStation.Dma

/-! ## What a step leaves alone -/

/-- The two bits of a control word that steps clear: busy and trigger. -/
def startBits : UInt32 := 0x11000000

/-- What a step does not change of a channel: what was asked for, but for the address. -/
structure Settings where
  device : Device
  brc : UInt32
  /-- The control word without its start bits. -/
  control : UInt32
deriving DecidableEq, Repr

namespace Channel

/-- The settings of a channel. -/
def settings (c : Channel) : Settings := ⟨c.device, c.brc, c.chcr &&& ~~~startBits⟩

section Settings

variable {c d : Channel}

theorem settings_start (c : Channel) (transfer : Transfer) :
    (c.start transfer).settings = c.settings := by
  have hcontrol : Word.withBit c.chcr 28 false &&& ~~~startBits = c.chcr &&& ~~~startBits := by
    rw [Word.withBit, if_neg (by decide), UInt32.and_assoc]
    rfl
  rw [settings, settings, start, hcontrol]

theorem settings_finish (c : Channel) : c.finish.settings = c.settings := by
  have hcontrol : c.chcr &&& ~~~startBits &&& ~~~startBits = c.chcr &&& ~~~startBits := by
    rw [UInt32.and_assoc, UInt32.and_self]
  rw [settings, settings, finish]
  exact congrArg (Settings.mk c.device c.brc) hcontrol

theorem settings_settle (progress : Progress) (c : Channel) :
    (settle (progress, c)).settings = c.settings := by
  cases progress with
  | complete => exact c.settings_finish
  | _ => rfl

/-- With an access, only the address and the transfer change. -/
theorem pass_eq (c : Channel) (memory : Memory) :
    ∃ madr transfer, (c.pass memory).2 = { c with madr, transfer } := by
  have hfollow : ∀ next, ∃ madr transfer, (c.follow next).2 = { c with madr, transfer } := by
    intro next
    unfold follow
    split <;> exact ⟨_, _, rfl⟩
  unfold pass
  split
  case h_1 => exact ⟨c.madr, c.transfer, rfl⟩
  case h_2 b _ =>
    unfold passBlock
    cases b.next? <;> exact ⟨_, _, rfl⟩
  case h_3 address _ =>
    unfold readHeader
    simp only
    split
    · exact hfollow _
    · exact ⟨c.madr, _, rfl⟩
  case h_4 address remaining next _ =>
    unfold passPayload
    split
    · exact hfollow next
    · exact ⟨c.madr, _, rfl⟩

theorem settings_serve (c : Channel) (memory : Memory) :
    (c.serve memory).settings = c.settings := by
  obtain ⟨madr, transfer, h⟩ := c.pass_eq memory
  have hpass : (c.pass memory).2.settings = c.settings := by
    rw [h]
    rfl
  exact (settings_settle _ _).trans hpass

/-- A transfer that begins is the one that the registers ask for. -/
theorem started?_eq_some {i : ChannelIndex} (h : started? c i = some d) :
    (c.inFlight = true ∧ d = c) ∨
    (c.transfer = none ∧ ∃ transfer, c.latch i = .ok transfer ∧ d = c.start transfer) := by
  unfold started? at h
  cases hflight : c.inFlight with
  | true =>
    rw [hflight] at h
    exact .inl ⟨rfl, (Option.some.inj h).symm⟩
  | false =>
    have hnone : c.transfer = none := by
      cases htransfer : c.transfer with
      | none => rfl
      | some transfer =>
        rw [inFlight, htransfer] at hflight
        cases hflight
    rw [hflight] at h
    cases hlatch : c.latch i with
    | error fault =>
      rw [hlatch] at h
      cases h
    | ok transfer =>
      rw [hlatch] at h
      exact .inr ⟨hnone, transfer, rfl, (Option.some.inj h).symm⟩

/-- To begin is to clear the trigger, as far as the registers go. -/
theorem registers_started {i : ChannelIndex} (h : started? c i = some d) :
    d.madr = c.madr ∧ d.brc = c.brc ∧
      d.chcr = if c.inFlight then c.chcr else Word.withBit c.chcr 28 false := by
  rcases started?_eq_some h with ⟨hflight, rfl⟩ | ⟨hidle, transfer, -, rfl⟩
  · exact ⟨rfl, rfl, (if_pos hflight).symm⟩
  · refine ⟨rfl, rfl, (if_neg ?_).symm⟩
    rw [inFlight, hidle]
    exact nofun

theorem settings_started {i : ChannelIndex} (h : started? c i = some d) :
    d.settings = c.settings := by
  rcases started?_eq_some h with ⟨-, rfl⟩ | ⟨-, transfer, -, rfl⟩
  · rfl
  · exact c.settings_start transfer

/-- **A step** does not change the settings. -/
theorem settings_stepped (c : Channel) (i : ChannelIndex) (memory : Memory) (gpu : Gpu) :
    (c.stepped i memory gpu).settings = c.settings := by
  unfold stepped
  cases h : started? c i with
  | none => exact c.settings_finish
  | some d =>
    simp only
    split
    · exact settings_started h
    · exact (d.settings_serve memory).trans (settings_started h)

/-! ### What follows from the settings -/

variable (h : c.settings = d.settings)
include h

theorem device_of_settings : c.device = d.device := congrArg Settings.device h

theorem brc_of_settings : c.brc = d.brc := congrArg Settings.brc h

theorem syncMode_of_settings : c.syncMode = d.syncMode := by
  have hcontrol : c.chcr &&& ~~~startBits = d.chcr &&& ~~~startBits :=
    congrArg Settings.control h
  have hfield : Word.field c.chcr 9 2 = Word.field d.chcr 9 2 := by
    have hcovered : ∀ w, Word.field (w &&& ~~~startBits) 9 2 = Word.field w 9 2 :=
      fun w => Word.field_and_of_covers w (by decide)
    rw [← hcovered c.chcr, hcontrol, hcovered]
  rw [syncMode, syncMode, hfield]

theorem direction_of_settings : c.direction = d.direction := by
  have hcontrol : c.chcr &&& ~~~startBits = d.chcr &&& ~~~startBits :=
    congrArg Settings.control h
  have hbit : Word.bit c.chcr 0 = Word.bit d.chcr 0 := by
    have hmasked := congrArg (Word.bit · 0) hcontrol
    simp only [Word.bit_and] at hmasked
    rwa [show Word.bit (~~~startBits) 0 = true from by decide, Bool.and_true, Bool.and_true]
      at hmasked
  rw [direction, direction, hbit]

/-- So whether a block waits is a matter of the GPU alone. -/
theorem blockWaits_of_settings (gpu : Gpu) : c.blockWaits gpu = d.blockWaits gpu := by
  rw [blockWaits, blockWaits, syncMode_of_settings h, direction_of_settings h]

theorem waitsFor_of_settings (a : Access) (gpu : Gpu) : c.waitsFor a gpu = d.waitsFor a gpu := by
  rw [waitsFor, waitsFor, blockWaits_of_settings h]

end Settings

end Channel

/-! ## Operations -/

/-- What can be done with a controller. -/
inductive Operation where
  /-- A register is written. -/
  | write (offset value : UInt32)
  /-- Some bits of a register are written. -/
  | writeLanes (offset value lanes : UInt32)
  /-- A step beside some memory and some GPU. -/
  | step (memory : Memory) (gpu : Gpu)
  | reset

/-- Does it. -/
def perform (dma : Dma) : Operation → Dma
  | .write offset value => dma.write offset value
  | .writeLanes offset value lanes => dma.writeLanes offset value lanes
  | .step memory gpu => (dma.step memory gpu).2.1
  | .reset => .reset

/-- A state that operations lead to from reset. -/
inductive Reachable : Dma → Prop
  | reset : Reachable .reset
  | perform {dma : Dma} (o : Operation) : Reachable dma → Reachable (dma.perform o)

/-- The channel of the GPU. -/
abbrev gpuChannel : ChannelIndex := 2

/-- The channel that makes ordering tables. -/
abbrev tableChannel : ChannelIndex := 6

/-- Software asks for a transfer: it writes the three registers of a channel. -/
def request (dma : Dma) (i : ChannelIndex) (madr brc chcr : UInt32) : Dma :=
  let offset := UInt32.ofNat (16 * i.val)
  ((dma.write offset madr).write (offset + 4) brc).write (offset + 8) chcr

theorem Reachable.request {dma : Dma} (h : Reachable dma) (i : ChannelIndex)
    (madr brc chcr : UInt32) : Reachable (dma.request i madr brc chcr) :=
  ((h.perform (.write _ madr)).perform (.write _ brc)).perform (.write _ chcr)

/-- Software enables some channels at power-on. -/
def enabling (dpcr : UInt32) : Dma := Dma.reset.write System.dpcrOffset dpcr

theorem Reachable.enabling (dpcr : UInt32) : Reachable (enabling dpcr) :=
  Reachable.reset.perform (.write _ dpcr)

/-! ## Sound channels -/

/-- The bits of the control word that the ordering-table channel has. -/
def tableControl : UInt32 := 0x51000000

/-- What holds of every channel of a reachable controller. -/
structure Channel.Sound (c : Channel) (i : ChannelIndex) : Prop where
  device : c.device = .ofChannel i.val
  control : c.device = .otc → c.chcr &&& ~~~tableControl = 0
  transfer : c.transfer ≠ none → c.device = .gpu ∨ c.device = .otc

namespace Channel

variable {c d : Channel} {i : ChannelIndex}

/-- A channel stays sound when its control word only loses bits and no transfer comes from
nowhere. -/
theorem Sound.of_less (hc : c.Sound i) (hdevice : d.device = c.device)
    (hcontrol : ∃ mask, d.chcr = c.chcr &&& mask)
    (htransfer : d.transfer ≠ none → c.device = .gpu ∨ c.device = .otc) : d.Sound i where
  device := hdevice.trans hc.device
  control hotc := by
    obtain ⟨mask, hmask⟩ := hcontrol
    rw [hmask, UInt32.and_assoc, UInt32.and_comm mask, ← UInt32.and_assoc,
      hc.control (hdevice ▸ hotc), UInt32.zero_and]
  transfer h := by
    rw [hdevice]
    exact htransfer h

/-- Only two devices have transfers. -/
theorem device_of_latch {transfer : Transfer} (h : c.latch i = .ok transfer) :
    c.device = .gpu ∨ c.device = .otc := by
  unfold latch at h
  simp only at h
  split at h
  case h_5 => cases h
  all_goals simp [*]

/-- A step keeps a channel sound. -/
theorem Sound.stepped (hc : c.Sound i) (memory : Memory) (gpu : Gpu) :
    (c.stepped i memory gpu).Sound i := by
  have hfinish : ∀ {d : Channel}, d.Sound i → d.finish.Sound i :=
    fun hd => hd.of_less rfl ⟨_, rfl⟩ fun hsome => absurd rfl hsome
  unfold Channel.stepped
  cases h : started? c i with
  | none => exact hfinish hc
  | some d =>
    have hd : d.Sound i := by
      rcases started?_eq_some h with ⟨-, rfl⟩ | ⟨-, transfer, hlatch, rfl⟩
      · exact hc
      · exact hc.of_less rfl ⟨~~~((1 : UInt32) <<< 28), rfl⟩ fun _ => device_of_latch hlatch
    simp only
    split
    · exact hd
    · -- what is under way goes on, or is over
      obtain ⟨madr, transfer, hpass⟩ := d.pass_eq memory
      have hdevice : d.device = .gpu ∨ d.device = .otc := by
        rcases started?_eq_some h with ⟨hflight, rfl⟩ | ⟨-, _, hlatch, rfl⟩
        · exact hd.transfer (Option.isSome_iff_ne_none.1 hflight)
        · exact device_of_latch (c := c) hlatch
      have hpassed : (d.pass memory).2.Sound i := by
        rw [hpass]
        exact hd.of_less rfl ⟨0xFFFFFFFF, (UInt32.and_neg_one).symm⟩ fun _ => hdevice
      rcases d.serve_cases memory with hserve | hserve <;> rw [hserve]
      · exact hpassed
      · exact hfinish hpassed

/-- So does a write of the control word. -/
theorem Sound.setControl (hc : c.Sound i) (value : UInt32) : (c.setControl value).Sound i where
  device := hc.device
  control hotc := by
    have hotc' : c.device = .otc := hotc
    show (if c.device = .otc then value &&& tableControl else value) &&& ~~~tableControl = 0
    rw [if_pos hotc', UInt32.and_assoc]
    exact UInt32.and_zero
  transfer h := by
    apply hc.transfer
    intro hnone
    apply h
    show (if _ then c.transfer else none) = none
    rw [hnone, ite_self]

/-- The ordering-table channel knows only one kind of transfer. -/
theorem mode_of_sound (hc : c.Sound i) (hdevice : c.device = .otc) :
    c.syncMode = .manual ∧ c.direction = .toRam := by
  have hmasked : c.chcr &&& tableControl = c.chcr := Word.and_of_and_not (hc.control hdevice)
  constructor
  · have hfield : Word.field c.chcr 9 2 = 0 := by
      rw [← hmasked]
      exact Word.field_and_of_misses _ (by decide)
    rw [syncMode, hfield]
    rfl
  · have hbit : Word.bit c.chcr 0 = false := by
      rw [← hmasked, Word.bit_and, show Word.bit tableControl 0 = false from by decide,
        Bool.and_false]
    rw [direction, hbit]
    rfl

/-- So it never waits. -/
theorem blockWaits_of_sound (hc : c.Sound i) (hdevice : c.device = .otc) (gpu : Gpu) :
    c.blockWaits gpu = false := by
  rw [blockWaits, (mode_of_sound hc hdevice).1]

end Channel

/-! ## Sound controllers -/

/-- Every channel is sound. -/
def Sound (dma : Dma) : Prop := ∀ i, (dma.channel i).Sound i

theorem Sound.setChannel {dma : Dma} (h : Sound dma) {i : ChannelIndex} {c : Channel}
    (hc : c.Sound i) : Sound (dma.setChannel i c) := by
  intro j
  rw [channel_setChannel]
  split
  · next hij => exact hij ▸ hc
  · exact h j

theorem sound_reset : Sound .reset := by
  intro i
  have hidle : Dma.reset.channel i = { device := .ofChannel i.val } :=
    Vector.getElem_ofFn i.isLt
  rw [hidle]
  exact ⟨rfl, fun _ => UInt32.zero_and, fun h => absurd rfl h⟩

theorem Sound.write {dma : Dma} (h : Sound dma) (offset value : UInt32) :
    Sound (dma.write offset value) := by
  unfold Dma.write
  cases Register.ofOffset offset with
  | madr i => exact h.setChannel ⟨(h i).device, (h i).control, (h i).transfer⟩
  | brc i => exact h.setChannel ⟨(h i).device, (h i).control, (h i).transfer⟩
  | chcr i => exact h.setChannel ((h i).setControl value)
  | dpcr => exact h
  | dicr => exact h
  | unused offset => exact h

theorem Sound.step {dma : Dma} (h : Sound dma) (memory : Memory) (gpu : Gpu) :
    Sound (dma.step memory gpu).2.1 := by
  intro j
  have hchannel := System.channel_move_dma ⟨dma, memory, gpu⟩ j
  show Channel.Sound (System.channel (System.move ⟨dma, memory, gpu⟩ .dma) j) j
  rw [hchannel]
  split
  · exact (h j).stepped memory gpu
  · exact h j

theorem Sound.perform {dma : Dma} (h : Sound dma) (o : Operation) : Sound (dma.perform o) := by
  cases o with
  | write offset value => exact h.write offset value
  | writeLanes offset value lanes => exact h.write offset _
  | step memory gpu => exact h.step memory gpu
  | reset => exact sound_reset

/-- **Every reachable controller is sound.** -/
theorem Reachable.sound {dma : Dma} (h : Reachable dma) : Sound dma := by
  induction h with
  | reset => exact sound_reset
  | perform o _ ih => exact ih.perform o

end PlayStation.Dma

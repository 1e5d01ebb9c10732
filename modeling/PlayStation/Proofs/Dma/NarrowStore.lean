/-
  NARROW STORES to the registers.

  A store of a byte or a halfword is merged into what the register holds, and the word is written
  back.  For most bits that is how it should be; but some are not stored as they are written, some
  read as something else, and a completion flag is cleared by being written as it was read.

  1. **Each bit by itself** (`bit_read_write`): what a bit reads as behind a write depends on what
     was written to that bit, and on no other (`readsBack`).  Only the interrupt signal, bit 31 of
     the interrupt register, is derived from others.

  2. **To write back what was kept** changes nothing (`readsBack_kept`).  This needs that the bits
     which a register does not have are clear: of addresses, of the control word of the
     ordering-table channel, and of the interrupt register (`Reachable.dicr_sound`).

  3. **The rest** stays: the other registers read what they did (`read_write_of_ne`), and the
     transfer of a channel is there as long as the channel is busy (`drops_write`).

  So a store touches only its lanes (`Reachable.read_writeLanes`).
-/
import PlayStation.Proofs.Dma.Bounds

namespace PlayStation.Dma

open Word (bit)

/-! ## The interrupt register -/

/-- No bit is set but those that are stored and the completion flags. -/
def Dicr.Sound (d : Dicr) : Prop :=
  ∀ n < 32, bit d.bits n = true → bit (Dicr.storedMask ||| Dicr.flagMask) n = true

namespace Dicr

theorem sound_write (d : Dicr) (value : UInt32) : (d.write value).Sound := by
  intro n _ hbit
  rw [write] at hbit
  simp only [Word.bit_or, Word.bit_and] at hbit ⊢
  cases hstored : bit storedMask n with
  | true => rfl
  | false =>
    rw [hstored, Bool.and_false, Bool.false_or, Bool.and_eq_true, Bool.and_eq_true] at hbit
    rw [Bool.false_or]
    exact hbit.1.2

theorem Sound.complete {d : Dicr} (h : d.Sound) (i : ChannelIndex) : (d.complete i).Sound := by
  have hplace : ∀ i : ChannelIndex, UInt32.ofNat (24 + i.val) < 32 ∧
      bit (storedMask ||| flagMask) (UInt32.ofNat (24 + i.val)) = true := by decide
  unfold Dicr.complete
  split
  · intro n hn hbit
    rw [Word.bit_withBit _ _ (hplace i).1 hn] at hbit
    split at hbit
    · next hflag =>
      rw [hflag]
      exact (hplace i).2
    · exact h n hn hbit
  · exact h

end Dicr

section Step

variable (dma : Dma) (i : ChannelIndex) (memory : Memory) (gpu : Gpu)

theorem dicr_record (progress : Progress) (c : Channel) :
    (dma.record i progress c).dicr = dma.dicr ∨
      (dma.record i progress c).dicr = dma.dicr.complete i := by
  cases progress with
  | complete => exact .inr rfl
  | _ => exact .inl rfl

/-- A step leaves the interrupt register alone, or notes the end of a transfer there. -/
theorem dicr_step : (dma.step memory gpu).2.1.dicr = dma.dicr ∨
    ∃ i, (dma.step memory gpu).2.1.dicr = dma.dicr.complete i := by
  unfold Dma.step
  simp only
  cases Dma.select { dma with accessing := false } with
  | none => exact .inl rfl
  | some i =>
    show (runChannel _ i memory gpu).1.dicr = _ ∨ ∃ j, (runChannel _ i memory gpu).1.dicr = _
    unfold runChannel
    split
    · exact .inr ⟨i, rfl⟩
    · exact (dicr_record _ i _ _).imp_right fun h => ⟨i, h⟩

end Step

theorem Reachable.dicr_sound {dma : Dma} (h : Reachable dma) : dma.dicr.Sound := by
  have hreset : Dma.reset.dicr.Sound := by
    intro n hn hbit
    rw [show Dma.reset.dicr.bits = 0 from rfl, Word.bit_zero hn] at hbit
    cases hbit
  have hwrite : ∀ {dma : Dma} (offset value : UInt32), dma.dicr.Sound →
      (dma.write offset value).dicr.Sound := by
    intro dma offset value hsound
    unfold Dma.write
    cases Register.ofOffset offset with
    | dicr => exact dma.dicr.sound_write value
    | _ => exact hsound
  induction h with
  | reset => exact hreset
  | @perform dma o _ ih =>
    cases o with
    | write offset value => exact hwrite offset value ih
    | writeLanes offset value lanes => exact hwrite offset _ ih
    | step memory gpu =>
      show (dma.step memory gpu).2.1.dicr.Sound
      rcases dma.dicr_step memory gpu with hsame | ⟨i, hdone⟩
      · rw [hsame]
        exact ih
      · rw [hdone]
        exact ih.complete i
    | reset => exact hreset

/-! ## Bit by bit -/

/-- What a bit of a register reads as when it has been written. -/
def readsBack (dma : Dma) (n : UInt32) (written : Bool) : Register → Bool
  | .madr _ => written && bit 0xFFFFFF n
  | .brc _ => written
  | .chcr i =>
    if (dma.channel i).device = .otc then written && bit tableControl n || bit 2 n else written
  | .dpcr => written
  | .dicr =>
    written && bit Dicr.storedMask n || bit dma.dicr.bits n && bit Dicr.flagMask n && !written
  | .unused _ => false

section Bits

variable {dma : Dma} {offset n : UInt32}

/-- **Each bit by itself**, but for the interrupt signal. -/
theorem bit_read_write (value : UInt32) (hn : n < 32)
    (hsignal : Register.ofOffset offset = .dicr → n ≠ 31) :
    bit ((dma.write offset value).read offset) n =
      dma.readsBack n (bit value n) (Register.ofOffset offset) := by
  have hself : ∀ i c, (dma.setChannel i c).channel i = c := by
    intro i c
    rw [channel_setChannel, if_pos rfl]
  unfold Dma.write Dma.read readsBack
  cases hregister : Register.ofOffset offset with
  | madr i =>
    simp only [hself]
    exact Word.bit_and _ _ _
  | brc i => simp only [hself]
  | chcr i =>
    simp only [hself, Channel.control, Channel.setControl]
    split
    · rw [Word.bit_or, Word.bit_and]
      rfl
    · rfl
  | dpcr => rfl
  | dicr =>
    simp only [Dicr.read, Dicr.write]
    rw [Word.bit_withBit _ _ (by decide) hn, if_neg (hsignal hregister), Word.bit_or,
      Word.bit_and, Word.bit_and, Word.bit_and, Word.bit_not]
  | unused offset => exact Word.bit_zero hn

/-- **Writing back** what a narrow store keeps of a register leaves each bit as it is. -/
theorem readsBack_kept (h : Reachable dma) (hn : n < 32)
    (hsignal : Register.ofOffset offset = .dicr → n ≠ 31) :
    dma.readsBack n (bit (dma.kept offset) n) (Register.ofOffset offset) =
      bit (dma.read offset) n := by
  unfold readsBack kept Dma.read
  cases hregister : Register.ofOffset offset with
  | madr i =>
    have hpointer : (dma.channel i).madr &&& 0xFFFFFF = (dma.channel i).madr := by
      rw [← UInt32.toNat_inj, Word.toNat_and_ones _ (n := 24) rfl]
      exact Nat.mod_eq_of_lt (h.channel_inBounds i).madr
    exact (Word.bit_and _ _ _).symm.trans (congrArg (bit · n) hpointer)
  | chcr i =>
    simp only [Channel.control]
    split
    · next hotc =>
      have hbits : (bit (dma.channel i).chcr n && bit tableControl n) =
          bit (dma.channel i).chcr n := by
        rw [← Word.bit_and, Word.and_of_and_not ((h.sound i).control hotc)]
      rw [Word.bit_or, Bool.and_or_distrib_right, hbits, Bool.or_assoc]
      cases bit 2 n <;> simp
    · rfl
  | dicr =>
    have hsound := h.dicr_sound n hn
    simp only [Dicr.read, Word.bit_and, Word.bit_not, Word.bit_or] at hsound ⊢
    rw [Word.bit_withBit _ _ (by decide) hn, if_neg (hsignal hregister)]
    cases hbit : bit dma.dicr.bits n with
    | false => simp
    | true =>
      rw [hbit] at hsound
      cases hflag : bit Dicr.flagMask n with
      | true => simp
      | false =>
        rw [hflag, Bool.or_false] at hsound
        simp [hsound rfl]
  | brc i => rfl
  | dpcr => rfl
  | unused offset => exact (Word.bit_zero hn).symm

end Bits

/-! ## The other registers, and transfers -/

section Frame

variable {dma : Dma} {offset : UInt32}

/-- What a channel has in common with the one that replaces it, all channels keep. -/
theorem congr_setChannel {α : Type} (part : Channel → α) {i j : ChannelIndex} {c : Channel}
    (h : i = j → part c = part (dma.channel j)) :
    part ((dma.setChannel i c).channel j) = part (dma.channel j) := by
  rw [channel_setChannel]
  split
  · next hij => exact h hij
  · rfl

/-- When a channel is replaced, the registers read the same in which the two agree. -/
theorem read_setChannel {i : ChannelIndex} {c : Channel}
    (hmadr : Register.ofOffset offset = .madr i → c.madr = (dma.channel i).madr)
    (hbrc : Register.ofOffset offset = .brc i → c.brc = (dma.channel i).brc)
    (hchcr : Register.ofOffset offset = .chcr i → c.control = (dma.channel i).control) :
    (dma.setChannel i c).read offset = dma.read offset := by
  unfold Dma.read
  cases hregister : Register.ofOffset offset with
  | madr j =>
    refine congr_setChannel Channel.madr ?_
    rintro rfl
    exact hmadr hregister
  | brc j =>
    refine congr_setChannel Channel.brc ?_
    rintro rfl
    exact hbrc hregister
  | chcr j =>
    refine congr_setChannel Channel.control ?_
    rintro rfl
    exact hchcr hregister
  | _ => rfl

/-- **A write** changes no other register. -/
theorem read_write_of_ne {other : UInt32}
    (h : Register.ofOffset other ≠ Register.ofOffset offset) (value : UInt32) :
    (dma.write offset value).read other = dma.read other := by
  unfold Dma.write
  cases hregister : Register.ofOffset offset with
  | madr i =>
    rw [hregister] at h
    exact read_setChannel (fun hsame => absurd hsame h) (fun _ => rfl) (fun _ => rfl)
  | brc i =>
    rw [hregister] at h
    exact read_setChannel (fun _ => rfl) (fun hsame => absurd hsame h) (fun _ => rfl)
  | chcr i =>
    rw [hregister] at h
    exact read_setChannel (fun _ => rfl) (fun _ => rfl) (fun hsame => absurd hsame h)
  | dpcr =>
    rw [hregister] at h
    unfold Dma.read
    cases hother : Register.ofOffset other with
    | dpcr => exact absurd hother h
    | _ => rfl
  | dicr =>
    rw [hregister] at h
    unfold Dma.read
    cases hother : Register.ofOffset other with
    | dicr => exact absurd hother h
    | _ => rfl
  | unused offset => rfl

/-- The interrupt signal is derived. -/
theorem bit_read_signal (h : Register.ofOffset offset = .dicr) :
    bit (dma.read offset) 31 = dma.dicr.signal := by
  rw [Dma.read, h]
  exact (Word.bit_withBit _ _ (by decide) (by decide)).trans (if_pos rfl)

/-- The transfer of a channel behind a write: it is dropped just if the channel is not busy. -/
def Channel.Drops (c after : Channel) : Prop :=
  after.transfer = if after.busy then c.transfer else none

/-- A channel has its transfer only while it is busy. -/
theorem Channel.InBounds.drops {c : Channel} {i : ChannelIndex} (h : c.InBounds i) :
    c.Drops c := by
  unfold Channel.Drops
  cases htransfer : c.transfer with
  | none => rw [ite_self]
  | some t =>
    have hbusy : c.busy = true := h.busy (by rw [htransfer]; exact Option.some_ne_none t)
    rw [if_pos hbusy]

/-- **Every channel** drops its transfer behind a write just if it is not busy. -/
theorem drops_write (h : InBounds dma) (offset value : UInt32) (i : ChannelIndex) :
    (dma.channel i).Drops ((dma.write offset value).channel i) := by
  have hset : ∀ {j c}, (dma.channel j).Drops c →
      (dma.channel i).Drops ((dma.setChannel j c).channel i) := by
    intro j c hc
    rw [channel_setChannel]
    split
    · next hij => exact hij ▸ hc
    · exact (h i).drops
  unfold Dma.write
  cases Register.ofOffset offset with
  | madr j => exact hset (h j).drops
  | brc j => exact hset (h j).drops
  | chcr j => exact hset rfl
  | _ => exact (h i).drops

theorem Channel.bit_control_busy (c : Channel) : bit c.control 24 = c.busy := by
  unfold Channel.control
  split
  · exact (Word.bit_or _ _ _).trans (Bool.or_false _)
  · rfl

end Frame

/-! ## Narrow stores -/

/-- **A narrow store** touches only its lanes.  The other registers read what they did.  Of the
register that is stored to, the bits in the lanes read as if the whole word had been written, and
the others as before, so that no completion flag outside of the lanes is acknowledged; but the
interrupt signal is derived from the other bits.  A transfer that is under way is dropped just if
its channel is not busy behind the store. -/
theorem Reachable.read_writeLanes {dma : Dma} (h : Reachable dma) (offset value lanes : UInt32) :
    let after := dma.writeLanes offset value lanes
    (∀ other, Register.ofOffset other ≠ Register.ofOffset offset →
      after.read other = dma.read other) ∧
    (∀ n < 32, (Register.ofOffset offset = .dicr → n ≠ 31) →
      bit (after.read offset) n =
        if bit lanes n then bit ((dma.write offset value).read offset) n
        else bit (dma.read offset) n) ∧
    (Register.ofOffset offset = .dicr → bit (after.read offset) 31 = after.dicr.signal) ∧
    ∀ i t, (dma.channel i).transfer = some t →
      (after.channel i).transfer = if bit (after.channel i).control 24 then some t else none := by
  refine ⟨fun other hother => read_write_of_ne hother _, fun n hn hsignal => ?_,
    bit_read_signal, fun i t ht => ?_⟩
  · rw [Dma.writeLanes, bit_read_write _ hn hsignal, Word.bit_merge]
    split
    · exact (bit_read_write value hn hsignal).symm
    · exact readsBack_kept h hn hsignal
  · rw [Channel.bit_control_busy, ← ht]
    exact drops_write h.channel_inBounds offset _ i

/-- The table channel has made a table of one entry, which has left its flag, and is at work on
another. -/
def flagged : Dma :=
  let first := ((enabling 0x08000000).write 0x74 0x00C00000).request tableChannel 0x100 1 0x01000000
  let second := (first.perform (.step .blank {})).request tableChannel 0x200 2 0x01000000
  second.perform (.step .blank {})

theorem reachable_flagged : Reachable flagged := by
  have hfirst := ((Reachable.enabling 0x08000000).perform (.write 0x74 0x00C00000)).request
    tableChannel 0x100 1 0x01000000
  have hsecond := (hfirst.perform (.step .blank {})).request tableChannel 0x200 2 0x01000000
  exact hsecond.perform (.step .blank {})

/-- A byte is stored to the bottom of the interrupt register, and the flag stays; a byte is stored
to the top of the control word, and the transfer is dropped. -/
theorem read_writeLanes_flagged :
    let settings := flagged.writeLanes 0x74 0x3F 0xFF
    let stopped := flagged.writeLanes 0x68 0 0xFF000000
    flagged.read 0x74 = 0xC0C00000 ∧ settings.read 0x74 = 0xC0C0003F ∧
      bit (settings.read 0x74) 30 = true ∧
      (flagged.channel tableChannel).inFlight = true ∧
      (stopped.channel tableChannel).transfer = none := by
  intro settings stopped
  obtain ⟨-, hbits, -, -⟩ := reachable_flagged.read_writeLanes 0x74 0x3F 0xFF
  obtain ⟨-, -, -, htransfer⟩ := reachable_flagged.read_writeLanes 0x68 0 0xFF000000
  have hflight : (flagged.channel tableChannel).transfer =
      some (.block ⟨0x1FC, down, 2, 1, 1⟩) := by decide
  refine ⟨by decide, by decide, ?_, by decide, ?_⟩
  · exact (hbits 30 (by decide) fun _ => by decide).trans (by decide)
  · exact (htransfer tableChannel _ hflight).trans (by decide)

end PlayStation.Dma

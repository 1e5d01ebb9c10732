/-
  What the DMA controller SEES of the GPU.

  A transfer looks at flags of the status word before it moves a word.  Two of them follow from the
  FIFO: whether a block can be taken (`ready_for_block`), and the request itself when the direction
  is from RAM to the GPU.  So a list transfer waits just when the FIFO is full (`listWaits_eq`).

  The direction stays as it is while nobody writes to the control port: no step changes it
  (`dmaDirection_step`).
-/
import PlayStation.Dma.Advance
import PlayStation.Proofs.Bits
import PlayStation.Proofs.Gpu.Reachable

namespace PlayStation.Gpu

/-! ## Flags of the status word -/

theorem bit_put (s : Status) (flag : StatusFlag) (value : Bool) {n : UInt32} (hn : n < 32) :
    Word.bit (s.put flag value).bits n = if n = flag.position then value else Word.bit s.bits n :=
  Word.bit_withBit _ _ (by cases flag <;> decide) hn

/-- A block can be taken when the FIFO has room. -/
theorem ready_for_block (g : Gpu) : Word.bit g.statusWord 28 = !g.fifo.isFull := by
  simp only [statusWord, bit_put _ _ _ (n := 28) (by decide)]
  rfl

/-- The request that software sees is the one in force. -/
theorem request_eq (g : Gpu) : Word.bit g.statusWord 25 = g.dmaRequest := by
  simp only [statusWord, bit_put _ _ _ (n := 25) (by decide)]
  rfl

/-- **A list transfer waits** just when the FIFO is full. -/
theorem listWaits_eq {g : Gpu} (h : g.status.dmaDirection = 2) :
    Dma.Channel.listWaits g = g.fifo.isFull := by
  have hrequest : g.dmaRequest = !g.fifo.isFull := by
    rw [dmaRequest, h]
    rfl
  rw [Dma.Channel.listWaits, request_eq, ready_for_block, hrequest, Bool.and_self, Bool.not_not]

/-! ## The direction -/

/-- A flag is no part of the direction. -/
theorem dmaDirection_put (s : Status) (flag : StatusFlag) (value : Bool) :
    (s.put flag value).dmaDirection = s.dmaDirection := by
  show Word.field (Word.withBit s.bits flag.position value) 29 2 = _
  rw [Word.withBit_eq_merge]
  exact Word.field_merge_of_misses _ _ (by cases flag <;> decide) (by cases flag <;> decide)

theorem dmaDirection_adoptPage (g : Gpu) (page : UInt16) :
    (g.adoptPage page).status.dmaDirection = g.status.dmaDirection := by
  have hmerge : Status.dmaDirection ⟨Word.merge g.status.bits 0x1FF page.toUInt32⟩ =
      g.status.dmaDirection :=
    Word.field_merge_of_misses _ _ (by decide) (by decide)
  unfold adoptPage
  simp only
  split
  · exact (dmaDirection_put _ _ _).trans hmerge
  · exact hmerge

theorem dmaDirection_setDrawMode (g : Gpu) (w : UInt32) :
    (g.setDrawMode w).status.dmaDirection = g.status.dmaDirection := by
  have hmerge : (g.status.setTexpage w).dmaDirection = g.status.dmaDirection :=
    Word.field_merge_of_misses _ _ (by decide) (by decide)
  exact (dmaDirection_put _ _ _).trans hmerge

theorem dmaDirection_draws {g g' : Gpu} (h : g.Draws g') :
    g'.status.dmaDirection = g.status.dmaDirection := by
  cases h with
  | texturedPolygon page p => exact g.dmaDirection_adoptPage page
  | _ => rfl

/-- No command of the data port changes the direction. -/
theorem dmaDirection_execute (g : Gpu) (c : Command) (words : List UInt32) :
    (g.execute c words).status.dmaDirection = g.status.dmaDirection := by
  unfold execute
  split
  -- the commands that write to the status word, or draw
  case h_2 => exact dmaDirection_put _ _ _
  case h_3 => exact dmaDirection_draws (g.draws_drawPolygon _ _)
  case h_4 => exact dmaDirection_draws (g.draws_drawLine _ _)
  case h_5 => exact dmaDirection_draws (g.draws_drawRectangle _ _)
  case h_8 => exact dmaDirection_put _ _ _
  case h_9 => exact g.dmaDirection_setDrawMode _
  case h_14 => exact (dmaDirection_put _ _ _).trans (dmaDirection_put _ _ _)
  all_goals rfl

theorem dmaDirection_digest (g : Gpu) (first : UInt32) (words : List UInt32) (intake : Intake) :
    (g.digest first words intake).status.dmaDirection = g.status.dmaDirection := by
  cases intake with
  | command => exact g.dmaDirection_execute _ words
  | upload cursor => rfl
  | polyline pen =>
    rw [digest]
    split
    · rfl
    · split <;> rfl

theorem dmaDirection_consume (g : Gpu) :
    g.consume.status.dmaDirection = g.status.dmaDirection := by
  cases h : g.fifo.toList with
  | nil => rw [consume_of_nil h]
  | cons first rest =>
    rw [consume_of_cons h]
    split
    · rfl
    · exact dmaDirection_digest _ _ _ _

theorem dmaDirection_advanceBeam (g : Gpu) :
    g.advanceBeam.2.status.dmaDirection = g.status.dmaDirection := by
  unfold advanceBeam
  simp only
  split
  · exact dmaDirection_put _ _ _
  · rfl

/-- **A step** does not change the direction. -/
theorem dmaDirection_step (g : Gpu) : g.step.2.status.dmaDirection = g.status.dmaDirection :=
  (dmaDirection_consume _).trans g.dmaDirection_advanceBeam

/-- A read at the data port may end a download, but it does not change the direction. -/
theorem dmaDirection_readWord (g : Gpu) :
    g.readWord.2.status.dmaDirection = g.status.dmaDirection := by
  unfold readWord
  split
  · rfl
  · simp only
    split
    · exact dmaDirection_put _ _ _
    · rfl

end PlayStation.Gpu

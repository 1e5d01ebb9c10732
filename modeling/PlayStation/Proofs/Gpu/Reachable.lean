/-
  The states a GPU can be in.

  From power-on on a GPU is written to, read, stepped, reset, given another renderer or another
  video standard, and its video memory is poked from outside.  An `Operation` is one of these, and
  a state is `Reachable` when some operations lead to it.

  Two things hold in all of them (`Sound`): the ring of the FIFO is in order, and no request for an
  interrupt is left over, since the step that runs the command reports it.
-/
import PlayStation.Gpu.Control
import PlayStation.Proofs.Gpu.Consume

namespace PlayStation.Gpu

/-- What can be done with a GPU. -/
inductive Operation where
  /-- A GP0 word is written. -/
  | queue (word : UInt32)
  /-- A GP1 word is written. -/
  | control (word : UInt32)
  | read
  | step
  | reset
  | selectStandard (standard : VideoStandard)
  | attach (renderer : Renderer)
  /-- A pixel is written past the GPU. -/
  | poke (x y : Nat) (pixel : UInt16)

/-- The operation is an access to one of the two registers. -/
def Operation.isAccess : Operation → Bool
  | .queue _ | .control _ | .read => true
  | .step | .reset | .selectStandard _ | .attach _ | .poke _ _ _ => false

/-- Does it. -/
def perform (g : Gpu) : Operation → Gpu
  | .queue word => g.queue word
  | .control word => g.control word
  | .read => g.readWord.2
  | .step => g.step.2
  | .reset => g.reset
  | .selectStandard standard => g.setVideoStandard standard
  | .attach renderer => { g with renderer }
  | .poke x y pixel => { g with vram := g.vram.set x y pixel }

/-- Does one after the other. -/
def performAll (g : Gpu) (operations : List Operation) : Gpu := operations.foldl perform g

/-- A state that operations lead to from power-on. -/
inductive Reachable : Gpu → Prop
  | powerOn : Reachable {}
  | perform {g : Gpu} (o : Operation) : Reachable g → Reachable (g.perform o)

theorem Reachable.performAll {operations : List Operation} : ∀ {g : Gpu}, Reachable g →
    Reachable (g.performAll operations) := by
  induction operations with
  | nil => exact fun hg => hg
  | cons o operations ih => exact fun hg => ih (hg.perform o)

/-- What holds in every reachable state. -/
structure Sound (g : Gpu) : Prop where
  fifo : g.fifo.Valid
  quiet : g.interruptRequested = false

/-! ## One operation -/

/-- A GP1 word empties the FIFO or leaves it alone, and it asks for no interrupt. -/
theorem control_frame (g : Gpu) (w : UInt32) :
    ((g.control w).fifo = g.fifo ∨ (g.control w).fifo = g.fifo.clear) ∧
    (g.control w).interruptRequested = g.interruptRequested := by
  unfold control
  split
  case h_1 => exact ⟨.inr rfl, rfl⟩
  case h_2 => exact ⟨.inr rfl, rfl⟩
  case h_11 =>
    split
    · unfold latchInfo
      split <;> exact ⟨.inl rfl, rfl⟩
    · exact ⟨.inl rfl, rfl⟩
  all_goals exact ⟨.inl rfl, rfl⟩

/-- A read leaves the FIFO alone. -/
theorem readWord_frame (g : Gpu) :
    g.readWord.2.fifo = g.fifo ∧ g.readWord.2.interruptRequested = g.interruptRequested := by
  unfold readWord
  split
  · exact ⟨rfl, rfl⟩
  · simp only
    split <;> exact ⟨rfl, rfl⟩

theorem fifo_advanceBeam (g : Gpu) : g.advanceBeam.2.fifo = g.fifo := by
  unfold advanceBeam
  simp only
  split <;> rfl

/-- What is taken is taken from the front. -/
theorem valid_consume {g : Gpu} (hg : g.fifo.Valid) : g.consume.fifo.Valid := by
  cases h : g.fifo.toList with
  | nil =>
    rw [consume_of_nil h]
    exact hg
  | cons first rest =>
    rw [consume_of_cons h]
    split
    · exact hg
    · rw [fifo_digest]
      exact CommandFifo.valid_take _ hg

theorem Sound.step {g : Gpu} (hg : g.Sound) : g.step.2.Sound where
  fifo := by
    show g.advanceBeam.2.consume.fifo.Valid
    apply valid_consume
    rw [fifo_advanceBeam]
    exact hg.fifo
  quiet := rfl

theorem Sound.perform {g : Gpu} (hg : g.Sound) (o : Operation) : (g.perform o).Sound := by
  cases o with
  | queue word => exact ⟨CommandFifo.valid_push hg.fifo word, hg.quiet⟩
  | control word =>
    obtain ⟨hfifo, hquiet⟩ := g.control_frame word
    refine ⟨?_, hquiet.trans hg.quiet⟩
    show (g.control word).fifo.Valid
    rcases hfifo with hsame | hclear
    · rw [hsame]
      exact hg.fifo
    · rw [hclear]
      exact CommandFifo.valid_clear _
  | read =>
    obtain ⟨hfifo, hquiet⟩ := g.readWord_frame
    refine ⟨?_, hquiet.trans hg.quiet⟩
    show g.readWord.2.fifo.Valid
    rw [hfifo]
    exact hg.fifo
  | step => exact hg.step
  | reset => exact ⟨CommandFifo.valid_clear _, rfl⟩
  | selectStandard standard => exact ⟨hg.fifo, hg.quiet⟩
  | attach renderer => exact ⟨hg.fifo, hg.quiet⟩
  | poke x y pixel => exact ⟨hg.fifo, hg.quiet⟩

/-! ## All of them -/

/-- **Every reachable state is sound.** -/
theorem Reachable.sound {g : Gpu} (hg : Reachable g) : g.Sound := by
  induction hg with
  | powerOn => exact ⟨CommandFifo.valid_empty, rfl⟩
  | perform o _ ih => exact ih.perform o

end PlayStation.Gpu

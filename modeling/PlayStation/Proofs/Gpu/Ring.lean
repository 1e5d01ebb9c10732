/-
  The RING of the FIFO makes no difference.

  A ring can hold the same waiting words in many ways: they may begin anywhere, and the places
  between the last word and the first keep whatever lay there before.  Emptying the FIFO does not
  wipe them.  Two GPUs are `Alike` when they differ in their rings alone and the same words wait in
  both.

  Whatever is done with them, they stay alike (`Alike.perform`), and answer alike on the way
  (`Alike.statusWord`, `Alike.readWord`, `Alike.step`).  Only three things touch the ring at all: a
  word is pushed, words are taken from the front, all words are forgotten.  The rest goes on beside
  the FIFO, so it commutes with putting another ring in (`withFifo`).
-/
import PlayStation.Proofs.Gpu.Reachable

namespace PlayStation.Gpu

/-! ## Rings -/

namespace CommandFifo

/-- Two rings in order that hold the same words. -/
structure Alike (q r : CommandFifo) : Prop where
  left : q.Valid
  right : r.Valid
  words : q.toList = r.toList

namespace Alike

variable {q r : CommandFifo}

theorem size (h : q.Alike r) : q.size = r.size := by
  rw [← q.length_toList, ← r.length_toList, h.words]

theorem isFull (h : q.Alike r) : q.isFull = r.isFull := by
  rw [CommandFifo.isFull, CommandFifo.isFull, h.size]

theorem push (h : q.Alike r) (word : UInt32) : (q.push word).2.Alike (r.push word).2 where
  left := valid_push h.left word
  right := valid_push h.right word
  words := by
    cases hfull : q.isFull with
    | false => rw [toList_push h.left hfull, toList_push h.right (h.isFull ▸ hfull), h.words]
    | true =>
      rw [toList_push_of_full h.left hfull, toList_push_of_full h.right (h.isFull ▸ hfull),
        h.words]

theorem take (h : q.Alike r) (n : Nat) : (q.take n).2.Alike (r.take n).2 where
  left := valid_take n h.left
  right := valid_take n h.right
  words := by rw [(q.take_eq n).2, (r.take_eq n).2, h.words]

theorem clear (q r : CommandFifo) : q.clear.Alike r.clear := ⟨valid_clear q, valid_clear r, rfl⟩

end Alike

end CommandFifo

/-- Two GPUs that differ in their rings alone. -/
inductive Alike : Gpu → Gpu → Prop
  | rings (g : Gpu) {q r : CommandFifo} (hrings : q.Alike r) : Alike (g.withFifo q) (g.withFifo r)

/-! ## Beside the FIFO -/

section Beside

variable (g : Gpu) (q : CommandFifo)

theorem advanceBeam_withFifo :
    (g.withFifo q).advanceBeam = (g.advanceBeam.1, g.advanceBeam.2.withFifo q) := by
  unfold advanceBeam withFifo
  simp only
  split <;> rfl

theorem readWord_withFifo : (g.withFifo q).readWord = (g.readWord.1, g.readWord.2.withFifo q) := by
  have hdownload : (g.withFifo q).download = g.download := rfl
  have hpixel : ∀ cursor, (g.withFifo q).nextPixel cursor = g.nextPixel cursor := fun _ => rfl
  simp only [readWord, hdownload, hpixel]
  cases g.download with
  | none => rfl
  | some cursor =>
    simp only
    split <;> rfl

theorem latchInfo_withFifo (index : Nat) :
    (g.withFifo q).latchInfo index = (g.latchInfo index).withFifo q := by
  have hinfo : (g.withFifo q).info? index = g.info? index := rfl
  rw [latchInfo, latchInfo, hinfo]
  cases g.info? index <;> rfl

/-- Of the GP1 words, the first two empty the FIFO; the others act beside it. -/
theorem control_withFifo (w : UInt32) :
    (g.withFifo q).control w =
      (g.control w).withFifo (if Word.field w 24 8 < 2 then q.clear else q) := by
  unfold control
  generalize Word.field w 24 8 = code
  split
  case h_11 hreset hclear _ _ _ _ _ _ _ _ =>
    have hother : ¬code < 2 := by
      have hzero : code ≠ 0 := hreset
      have hone : code ≠ 1 := hclear
      omega
    rw [if_neg hother]
    split
    · exact g.latchInfo_withFifo q _
    · rfl
  all_goals rfl

/-- As many words are taken as if the others were not there, and digested beside the FIFO. -/
theorem consume_withFifo {first : UInt32} {rest : List UInt32} (h : q.toList = first :: rest) :
    (g.withFifo q).consume =
      if q.size < g.intake.appetite first then g.withFifo q
      else
        (g.digest first ((first :: rest).take (g.intake.appetite first)) g.intake).withFifo
          (q.take (g.intake.appetite first)).2 := by
  have hwords : (g.withFifo q).fifo.toList = first :: rest := h
  rw [consume_of_cons hwords, digest_withFifo, digest_withFifo]
  rfl

end Beside

/-! ## GPUs -/

namespace Alike

variable {g h : Gpu}

/-- What does not depend on the FIFO is the same. -/
theorem same {α : Type} {f : Gpu → α} (hgh : Alike g h) (hf : ∀ g q, f (withFifo g q) = f g) :
    f g = f h := by
  cases hgh with
  | rings g hrings => rw [hf, hf]

/-- What goes on beside the FIFO leaves them alike. -/
theorem beside {f : Gpu → Gpu} (hgh : Alike g h)
    (hf : ∀ g q, f (withFifo g q) = (f g).withFifo q) : Alike (f g) (f h) := by
  cases hgh with
  | rings g hrings =>
    rw [hf, hf]
    exact .rings (f g) hrings

theorem waiting (hgh : Alike g h) : g.fifo.toList = h.fifo.toList := by
  cases hgh with
  | rings g hrings => exact hrings.words

/-- **The status word** depends on how many words wait, and on nothing else about the FIFO. -/
theorem statusWord (hgh : Alike g h) : g.statusWord = h.statusWord := by
  cases hgh with
  | rings g hrings =>
    have hfull : (g.withFifo _).fifo.isFull = (g.withFifo _).fifo.isFull := hrings.isFull
    rw [Gpu.statusWord, Gpu.statusWord, dmaRequest, dmaRequest, hfull]
    rfl

theorem queue (hgh : Alike g h) (word : UInt32) : Alike (g.queue word) (h.queue word) := by
  cases hgh with
  | rings g hrings => exact .rings g (hrings.push word)

theorem control (hgh : Alike g h) (w : UInt32) : Alike (g.control w) (h.control w) := by
  cases hgh with
  | rings g hrings =>
    rw [control_withFifo, control_withFifo]
    refine .rings _ ?_
    split
    · exact .clear _ _
    · exact hrings

theorem readWord (hgh : Alike g h) :
    g.readWord.1 = h.readWord.1 ∧ Alike g.readWord.2 h.readWord.2 := by
  cases hgh with
  | rings g hrings =>
    rw [readWord_withFifo, readWord_withFifo]
    exact ⟨rfl, .rings _ hrings⟩

theorem advanceBeam (hgh : Alike g h) :
    g.advanceBeam.1 = h.advanceBeam.1 ∧ Alike g.advanceBeam.2 h.advanceBeam.2 := by
  cases hgh with
  | rings g hrings =>
    rw [advanceBeam_withFifo, advanceBeam_withFifo]
    exact ⟨rfl, .rings _ hrings⟩

/-- The same words are taken from the front. -/
theorem consume (hgh : Alike g h) : Alike g.consume h.consume := by
  cases hgh with
  | @rings g q r hrings =>
    cases hwords : q.toList with
    | nil =>
      have hleft : (g.withFifo q).fifo.toList = [] := hwords
      have hright : (g.withFifo r).fifo.toList = [] := hrings.words ▸ hwords
      rw [consume_of_nil hleft, consume_of_nil hright]
      exact .rings g hrings
    | cons first rest =>
      rw [consume_withFifo g q hwords, consume_withFifo g r (hrings.words ▸ hwords), hrings.size]
      split
      · exact .rings g hrings
      · exact .rings _ (hrings.take _)

/-- **A step** reports the same events. -/
theorem step (hgh : Alike g h) : g.step.1 = h.step.1 ∧ Alike g.step.2 h.step.2 := by
  obtain ⟨hevents, hbeam⟩ := hgh.advanceBeam
  have hirq : g.advanceBeam.2.consume.interruptRequested =
      h.advanceBeam.2.consume.interruptRequested :=
    hbeam.consume.same fun _ _ => rfl
  constructor
  · show { g.advanceBeam.1 with irq := g.advanceBeam.2.consume.interruptRequested } = _
    rw [hevents, hirq]
    rfl
  · exact hbeam.consume.beside (f := fun g => { g with interruptRequested := false })
      fun _ _ => rfl

/-- **Whatever is done** with them, they stay alike. -/
theorem perform (hgh : Alike g h) (o : Operation) : Alike (g.perform o) (h.perform o) := by
  cases o with
  | queue word => exact hgh.queue word
  | control word => exact hgh.control word
  | read => exact hgh.readWord.2
  | step => exact hgh.step.2
  | reset =>
    cases hgh with
    | rings g hrings => exact .rings g.reset (.clear _ _)
  | selectStandard standard => exact hgh.beside (f := (·.perform (.selectStandard standard))) fun _ _ => rfl
  | attach renderer => exact hgh.beside (f := (·.perform (.attach renderer))) fun _ _ => rfl
  | poke x y pixel => exact hgh.beside (f := (·.perform (.poke x y pixel))) fun _ _ => rfl

end Alike

end PlayStation.Gpu

/-
  ROOM in the FIFO.

  Only a queued word takes room away (`size_performAll_le`), and a step of the GPU makes some if
  there is none: the longest command has as many words as the FIFO holds, so all the words that the
  GPU wants are there when it is full, whatever is under way (`appetite_le`).  Behind a step there
  is room for a word at least (`isFull_step`).
-/
import PlayStation.Proofs.Gpu.Reachable

namespace PlayStation.Gpu

/-! ## Steps -/

/-- No command is longer than the FIFO. -/
theorem Command.length_le (c : Command) : c.length ≤ fifoCapacity := by
  cases c with
  | polygon style =>
    rw [Command.length, PolygonStyle.length, PolygonStyle.corners, fifoCapacity]
    split <;> split <;> split <;> omega
  | line style =>
    rw [Command.length, LineStyle.length, fifoCapacity]
    split
    · omega
    · split <;> omega
  | rectangle style =>
    rw [Command.length, RectangleStyle.length, fifoCapacity]
    split <;> split <;> omega
  | _ => decide

/-- The GPU never wants more words than the FIFO holds. -/
theorem Intake.appetite_le (intake : Intake) (first : UInt32) :
    intake.appetite first ≤ fifoCapacity := by
  cases intake with
  | command => exact Command.length_le _
  | upload cursor => exact (by decide : 1 ≤ fifoCapacity)
  | polyline pen =>
    rw [Intake.appetite, Pen.needed, fifoCapacity]
    split
    · omega
    · split <;> omega

theorem size_consume_le (g : Gpu) : g.consume.fifo.size ≤ g.fifo.size := by
  cases h : g.fifo.toList with
  | nil => exact Nat.le_of_eq (by rw [consume_of_nil h])
  | cons first rest =>
    rw [consume_of_cons h]
    split
    · exact Nat.le_refl _
    · rw [fifo_digest]
      show (g.fifo.take _).2.size ≤ g.fifo.size
      rw [← CommandFifo.length_toList, ← CommandFifo.length_toList, (g.fifo.take_eq _).2,
        List.length_drop]
      exact Nat.sub_le _ _

/-- From a full FIFO something is taken. -/
theorem size_consume_lt {g : Gpu} (hfull : fifoCapacity ≤ g.fifo.size) :
    g.consume.fifo.size < g.fifo.size := by
  have hlength := g.fifo.length_toList
  have hcapacity : 0 < fifoCapacity := by decide
  cases h : g.fifo.toList with
  | nil =>
    rw [h, List.length_nil] at hlength
    omega
  | cons first rest =>
    have hpos := g.intake.appetite_pos first
    have hle := g.intake.appetite_le first
    have henough : ¬g.fifo.size < g.intake.appetite first := by omega
    rw [consume_of_cons h, if_neg henough, fifo_digest]
    show (g.fifo.take _).2.size < g.fifo.size
    rw [← CommandFifo.length_toList, (g.fifo.take_eq _).2, List.length_drop, hlength]
    omega

theorem size_step_le (g : Gpu) : g.step.2.fifo.size ≤ g.fifo.size := by
  have hle := size_consume_le g.advanceBeam.2
  rw [fifo_advanceBeam] at hle
  exact hle

/-- **A step** takes a word at least when the FIFO is full. -/
theorem size_step_lt {g : Gpu} (hfull : g.fifo.isFull = true) :
    g.step.2.fifo.size < g.fifo.size := by
  have hsize : fifoCapacity ≤ g.advanceBeam.2.fifo.size := by
    rw [fifo_advanceBeam]
    exact Nat.le_of_eq (eq_of_beq hfull).symm
  have hlt := size_consume_lt hsize
  rw [fifo_advanceBeam] at hlt
  exact hlt

/-- **Behind a step** there is room. -/
theorem isFull_step {g : Gpu} (hg : g.Sound) : g.step.2.fifo.isFull = false := by
  have hle := g.size_step_le
  have hsize := hg.fifo.size
  apply beq_false_of_ne
  cases hfull : g.fifo.isFull with
  | true =>
    have hlt := size_step_lt hfull
    omega
  | false =>
    have hroom : g.fifo.size ≠ fifoCapacity := ne_of_beq_false hfull
    omega

/-! ## Other operations -/

/-- The operation puts a word into the FIFO. -/
def Operation.queues : Operation → Bool
  | .queue _ => true
  | _ => false

/-- Nothing else takes room away. -/
theorem size_perform_le (g : Gpu) {o : Operation} (h : o.queues = false) :
    (g.perform o).fifo.size ≤ g.fifo.size := by
  cases o with
  | queue word => cases h
  | control word =>
    show (g.control word).fifo.size ≤ g.fifo.size
    rcases (g.control_frame word).1 with hsame | hclear
    · exact Nat.le_of_eq (congrArg CommandFifo.size hsame)
    · rw [hclear]
      exact Nat.zero_le _
  | read =>
    show g.readWord.2.fifo.size ≤ g.fifo.size
    exact Nat.le_of_eq (congrArg CommandFifo.size g.readWord_frame.1)
  | step => exact g.size_step_le
  | reset => exact Nat.zero_le _
  | selectStandard standard => exact Nat.le_refl _
  | attach renderer => exact Nat.le_refl _
  | poke x y pixel => exact Nat.le_refl _

/-- **Without a queued word**, no room is taken. -/
theorem size_performAll_le {operations : List Operation} : ∀ {g : Gpu},
    (∀ o ∈ operations, o.queues = false) → (g.performAll operations).fifo.size ≤ g.fifo.size := by
  induction operations with
  | nil => exact fun _ => Nat.le_refl _
  | cons o operations ih =>
    intro g h
    rw [List.forall_mem_cons] at h
    exact Nat.le_trans (ih h.2) (g.size_perform_le h.1)

end PlayStation.Gpu

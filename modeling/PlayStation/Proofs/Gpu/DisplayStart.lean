/-
  Where the DISPLAYED AREA begins, and where the renderer takes it to begin.

  The GPU keeps the start of the displayed area in a register.  GP1(05) moves it and tells the
  renderer.  A reset moves it as well, back to the corner, and tells nobody.

  1. **One operation** (`display_perform_of_silent`, `display_control_of_move`): what becomes of the
     register and of what the renderer was told last.

  2. **Many operations** without a move (`display_performAll_of_silent`) leave the renderer with
     what it was told, and the register too unless there is a reset among them.

  3. So the renderer is **out of date** in one case only (`upToDate_performAll`): it was sent away from
     the corner, and then came a reset.
-/
import PlayStation.Proofs.Gpu.Beam

namespace PlayStation.Gpu

/-! ## What is told -/

/-- The move that a call tells of. -/
def RenderCall.move? : RenderCall → Option (Nat × Nat)
  | .displayStart x y => some (x, y)
  | .polygon _ | .rectangle _ | .line _ | .endFrame _ => none

/-- Where a recording renderer takes the displayed area to begin: where it was told last, in the
corner at first. -/
def Renderer.told? : Renderer → Option (Nat × Nat)
  | .null => none
  | .recording calls => some ((calls.toList.filterMap RenderCall.move?).getLastD (0, 0))

theorem Renderer.told?_receive (r : Renderer) (call : RenderCall) :
    (r.receive call).told? = r.told?.map call.move?.getD := by
  cases r with
  | null => rfl
  | recording calls =>
    show some (((calls.push call).toList.filterMap RenderCall.move?).getLastD (0, 0)) =
      some (call.move?.getD ((calls.toList.filterMap RenderCall.move?).getLastD (0, 0)))
    rw [filterMap_push]
    cases call.move? with
    | none => rw [Option.toList_none, List.append_nil, Option.getD_none]
    | some start => exact congrArg some List.getLastD_concat

theorem Renderer.told?_receive_of_none (r : Renderer) {call : RenderCall}
    (h : call.move? = none) : (r.receive call).told? = r.told? := by
  rw [r.told?_receive call, h]
  exact Option.map_id'

theorem RenderCall.move?_of_isDrawing {call : RenderCall} (h : call.isDrawing = true) :
    call.move? = none := by
  cases call with
  | displayStart x y => cases h
  | endFrame frame => rfl
  | _ => rfl

/-- Where the displayed area begins, and where the renderer takes it to begin. -/
def display (g : Gpu) : (Nat × Nat) × Option (Nat × Nat) := (g.displayStart, g.renderer.told?)

/-! ## What operations do -/

/-- Where a GP1(05) word has the displayed area begin: X in bits 1-9, even, and Y in bits 10-18. -/
def startOf (w : UInt32) : Nat × Nat := (Word.field w 1 9 * 2, Word.field w 10 9)

namespace Operation

/-- The operation moves the displayed area by the command that is there for it. -/
def moves : Operation → Bool
  | .control word => Word.field word 24 8 == 5
  | .queue _ | .read | .step | .reset | .selectStandard _ | .attach _ | .poke _ _ _ => false

/-- The operation sets all registers back. -/
def restarts : Operation → Bool
  | .control word => Word.field word 24 8 == 0
  | .reset => true
  | .queue _ | .read | .step | .selectStandard _ | .attach _ | .poke _ _ _ => false

/-- The operation leaves the renderer in its place. -/
def keepsRenderer : Operation → Bool
  | .attach _ => false
  | .queue _ | .control _ | .read | .step | .reset | .selectStandard _ | .poke _ _ _ => true

end Operation

section One

variable (g : Gpu)

theorem display_advanceBeam : g.advanceBeam.2.display = g.display := by
  unfold advanceBeam
  simp only
  split
  · exact congrArg (Prod.mk g.displayStart) (Renderer.told?_receive_of_none g.renderer rfl)
  · rfl

theorem display_consume : g.consume.display = g.display := by
  obtain ⟨-, hstart, hrenderer⟩ := g.onlyDraws_consume
  have htold : g.consume.renderer.told? = g.renderer.told? := by
    rcases hrenderer with hsame | ⟨call, hdrawing, hcall⟩
    · rw [hsame]
    · rw [hcall, Renderer.told?_receive_of_none _ (RenderCall.move?_of_isDrawing hdrawing)]
  exact Prod.ext hstart htold

theorem display_step : g.step.2.display = g.display := by
  have hconsume : g.step.2.display = g.advanceBeam.2.display := g.advanceBeam.2.display_consume
  rw [hconsume, display_advanceBeam]

theorem display_readWord : g.readWord.2.display = g.display := by
  unfold readWord
  split
  · rfl
  · simp only
    split <;> rfl

/-- GP1(05) moves the area, and the renderer hears of it. -/
theorem display_control_of_move {w : UInt32} (h : (Operation.control w).moves = true) :
    (g.control w).display = (startOf w, g.renderer.told?.map fun _ => startOf w) := by
  have hcode : Word.field w 24 8 = 5 := beq_iff_eq.1 h
  have hcontrol : g.control w = g.setDisplayStart w := by
    rw [control, hcode]
    rfl
  rw [hcontrol]
  exact congrArg (Prod.mk (startOf w)) (g.renderer.told?_receive _)

theorem display_control_of_not_move {w : UInt32} (h : (Operation.control w).moves = false) :
    (g.control w).display =
      (if (Operation.control w).restarts then (0, 0) else g.displayStart, g.renderer.told?) := by
  have hmove : Word.field w 24 8 ≠ 5 := beq_eq_false_iff_ne.1 h
  by_cases hreset : Word.field w 24 8 = 0
  · have hcontrol : g.control w = g.resetRegisters := by
      rw [control, hreset]
      rfl
    have hrestarts : (Operation.control w).restarts = true := beq_iff_eq.2 hreset
    rw [hcontrol, if_pos hrestarts]
    rfl
  · have hrestarts : ¬(Operation.control w).restarts = true := fun hr => hreset (beq_iff_eq.1 hr)
    rw [if_neg hrestarts]
    show _ = g.display
    unfold control
    split
    case h_1 hcode => exact absurd hcode hreset
    case h_6 hcode => exact absurd hcode hmove
    case h_11 =>
      split
      · unfold latchInfo
        split <;> rfl
      · rfl
    all_goals rfl

/-- **An operation that is not a move** tells the renderer nothing of the displayed area, and moves
it only by a reset. -/
theorem display_perform_of_silent {o : Operation} (hkeeps : o.keepsRenderer = true)
    (hsilent : o.moves = false) :
    (g.perform o).display =
      (if o.restarts then (0, 0) else g.displayStart, g.renderer.told?) := by
  cases o with
  | control word => exact g.display_control_of_not_move hsilent
  | read => exact g.display_readWord
  | step => exact g.display_step
  | attach renderer => cases hkeeps
  | _ => rfl

/-- A renderer that listens stays one that does. -/
theorem isSome_told?_perform {o : Operation} (hkeeps : o.keepsRenderer = true)
    (hlistens : g.renderer.told?.isSome = true) :
    (g.perform o).renderer.told?.isSome = true := by
  cases hmoves : o.moves with
  | false =>
    have htold := congrArg Prod.snd (g.display_perform_of_silent hkeeps hmoves)
    exact (congrArg Option.isSome htold).trans hlistens
  | true =>
    cases o with
    | control w =>
      have htold := congrArg Prod.snd (g.display_control_of_move hmoves)
      exact (congrArg Option.isSome htold).trans (Option.isSome_map.trans hlistens)
    | _ => cases hmoves

end One

/-! ## Many operations -/

/-- **Operations without a move**: one reset among them is enough. -/
theorem display_performAll_of_silent {operations : List Operation}
    (hkeep : ∀ o ∈ operations, o.keepsRenderer = true)
    (hsilent : ∀ o ∈ operations, o.moves = false) : ∀ g : Gpu,
    (g.performAll operations).display =
      (if operations.any Operation.restarts then (0, 0) else g.displayStart,
        g.renderer.told?) := by
  induction operations with
  | nil => exact fun _ => rfl
  | cons o operations ih =>
    obtain ⟨hkeeps, hkeep⟩ := List.forall_mem_cons.1 hkeep
    obtain ⟨hnone, hsilent⟩ := List.forall_mem_cons.1 hsilent
    intro g
    obtain ⟨hstart, htold⟩ := Prod.mk.inj (g.display_perform_of_silent hkeeps hnone)
    show ((g.perform o).performAll operations).display = _
    rw [ih hkeep hsilent (g.perform o), hstart, htold, List.any_cons]
    cases hrestarts : o.restarts with
    | false => rfl
    | true => exact congrArg (·, g.renderer.told?) (ite_self _)

theorem isSome_told?_performAll {operations : List Operation}
    (hkeep : ∀ o ∈ operations, o.keepsRenderer = true) : ∀ {g : Gpu},
    g.renderer.told?.isSome = true → (g.performAll operations).renderer.told?.isSome = true := by
  induction operations with
  | nil => exact id
  | cons o operations ih =>
    obtain ⟨hkeeps, hkeep⟩ := List.forall_mem_cons.1 hkeep
    intro g hlistens
    exact ih hkeep (g.isSome_told?_perform hkeeps hlistens)

/-- **The last move** is what the renderer knows, whatever comes after it. -/
theorem display_performAll_of_last_move {g : Gpu} (hlistens : g.renderer.told?.isSome = true)
    {before later : List Operation} {w : UInt32}
    (hkeep : ∀ o ∈ before ++ .control w :: later, o.keepsRenderer = true)
    (hmove : (Operation.control w).moves = true) (hsilent : ∀ o ∈ later, o.moves = false) :
    (g.performAll (before ++ .control w :: later)).display =
      (if later.any Operation.restarts then (0, 0) else startOf w, some (startOf w)) := by
  obtain ⟨hkeepBefore, hkeepRest⟩ := List.forall_mem_append.1 hkeep
  have hkeepLater := (List.forall_mem_cons.1 hkeepRest).2
  obtain ⟨told, htold⟩ :=
    Option.isSome_iff_exists.1 (isSome_told?_performAll hkeepBefore hlistens)
  obtain ⟨hstart, hmoved⟩ := Prod.mk.inj ((g.performAll before).display_control_of_move hmove)
  have hsplit : g.performAll (before ++ .control w :: later) =
      ((g.performAll before).control w).performAll later := List.foldl_append
  rw [hsplit, display_performAll_of_silent hkeepLater hsilent, hstart, hmoved, htold]
  rfl

/-- A run has no move, or a last one. -/
theorem silent_or_last_move (operations : List Operation) :
    (∀ o ∈ operations, o.moves = false) ∨
    ∃ before w later, operations = before ++ .control w :: later ∧
      (Operation.control w).moves = true ∧ ∀ o ∈ later, o.moves = false := by
  induction operations with
  | nil => exact .inl fun o ho => absurd ho List.not_mem_nil
  | cons o operations ih =>
    rcases ih with hsilent | ⟨before, w, later, rfl, hmove, hlater⟩
    · cases hmoves : o.moves with
      | false => exact .inl (List.forall_mem_cons.2 ⟨hmoves, hsilent⟩)
      | true =>
        cases o with
        | control w => exact .inr ⟨[], w, operations, rfl, hmoves, hsilent⟩
        | _ => cases hmoves
    · exact .inr ⟨o :: before, w, later, rfl, hmove, hlater⟩

/-- The renderer was sent away from the corner, and then, without another move, came a reset. -/
def ResetAfterMove (operations : List Operation) : Prop :=
  ∃ before w later, operations = before ++ .control w :: later ∧
    (Operation.control w).moves = true ∧ startOf w ≠ (0, 0) ∧
    (∀ o ∈ later, o.moves = false) ∧ ∃ o ∈ later, o.restarts = true

/-- **The renderer is up to date** behind every run, but for one that took the displayed area away
from the corner and then back by a reset. -/
theorem upToDate_performAll {operations : List Operation}
    (hkeep : ∀ o ∈ operations, o.keepsRenderer = true) :
    let g := performAll { renderer := .recorder } operations
    (g.renderer.told? = some g.displayStart ↔ ¬ResetAfterMove operations) ∧
    (ResetAfterMove operations → g.displayStart = (0, 0)) := by
  intro g
  have hlistens : ({ renderer := .recorder } : Gpu).renderer.told?.isSome = true := rfl
  have hbehind : ResetAfterMove operations →
      g.displayStart = (0, 0) ∧ g.renderer.told? ≠ some (0, 0) := by
    rintro ⟨before, w, later, rfl, hmove, hcorner, hsilent, hreset⟩
    obtain ⟨hstart, htold⟩ :=
      Prod.mk.inj (display_performAll_of_last_move hlistens hkeep hmove hsilent)
    rw [if_pos (List.any_eq_true.2 hreset)] at hstart
    refine ⟨hstart, ?_⟩
    rw [htold]
    exact fun hsame => hcorner (Option.some.inj hsame)
  have hcurrent : ¬ResetAfterMove operations → g.renderer.told? = some g.displayStart := by
    intro hnever
    rcases silent_or_last_move operations with hsilent | ⟨before, w, later, rfl, hmove, hsilent⟩
    · obtain ⟨hstart, htold⟩ := Prod.mk.inj
        (display_performAll_of_silent hkeep hsilent { renderer := .recorder })
      rw [htold, hstart, ite_self]
      rfl
    · obtain ⟨hstart, htold⟩ :=
        Prod.mk.inj (display_performAll_of_last_move hlistens hkeep hmove hsilent)
      rw [htold, hstart]
      split
      · next hreset =>
        -- the reset went unnoticed, but it moved nothing
        have hcorner : startOf w = (0, 0) := Decidable.byContradiction fun haway =>
          hnever ⟨before, w, later, rfl, hmove, haway, hsilent, List.any_eq_true.1 hreset⟩
        rw [hcorner]
      · rfl
  refine ⟨⟨fun htold hreset => ?_, hcurrent⟩, fun hreset => (hbehind hreset).1⟩
  obtain ⟨hstart, hother⟩ := hbehind hreset
  rw [hstart] at htold
  exact hother htold

/-- A move to (256, 80), and the power-on reset a step later. -/
theorem upToDate_performAll_reset :
    let operations : List Operation := [.control 0x05014100, .step, .reset, .queue 0]
    let g := performAll { renderer := .recorder } operations
    (∀ o ∈ operations, o.keepsRenderer = true) ∧ ResetAfterMove operations ∧
      g.renderer.told? ≠ some g.displayStart ∧ g.displayStart = (0, 0) := by
  intro operations g
  have hkeep : ∀ o ∈ operations, o.keepsRenderer = true := by decide
  have hreset : ResetAfterMove operations :=
    ⟨[], 0x05014100, [.step, .reset, .queue 0], rfl, by decide, by decide, by decide,
      .reset, .tail _ (.head _), rfl⟩
  obtain ⟨hcurrent, hcorner⟩ := upToDate_performAll hkeep
  exact ⟨hkeep, hreset, fun htold => hcurrent.1 htold hreset, hcorner hreset⟩

/-- The reset command is enough: GP1(05) to (256, 80), then GP1(00). -/
theorem outOfDate_reset :
    let g := performAll { renderer := .recorder } [.control 0x05014100, .control 0]
    g.displayStart = (0, 0) ∧ g.renderer.told? = some (256, 80) := ⟨rfl, rfl⟩

end PlayStation.Gpu

/-
  The BEAM, by the number of cycles that have passed.

  The beam is two counters, one inside the other: the cycle within the line, which carries into the
  line within the frame.  It has a third one that counts frames, and two signals, for the end of a
  line and for the start of the blank.

  1. **Closed form** (`Beam.advance_behind`): where the beam is behind `n` cycles is a matter of
     dividing `n` by the length of a line, and the quotient by the length of a frame
     (`Beam.behind`).  The signals come at the multiples of a line's length, and at those of them
     whose line is the first blank one (`VideoStandard.Blanks`).

  2. **Nothing else moves it** (`video_perform`): the words that a program writes to the GPU, its
     reads, and what the GPU takes from its FIFO leave the beam alone, and show no frame to the
     renderer.

  3. **A step** moves it by one cycle, and shows one frame if the display goes blank
     (`video_step`).
-/
import PlayStation.Proofs.Gpu.Core

namespace PlayStation.Gpu

/-! ## The closed form -/

/-- A counter carries when it has come to its end. -/
theorem div_mod_succ {c : Nat} (hpos : 0 < c) (n : Nat) :
    ((n + 1) / c, (n + 1) % c) =
      if n % c + 1 < c then (n / c, n % c + 1) else (n / c + 1, 0) := by
  have hlt : n % c < c := Nat.mod_lt n hpos
  have hn : c * (n / c) + n % c = n := Nat.div_add_mod n c
  by_cases hwithin : n % c + 1 < c
  · have hnext : n + 1 = n % c + 1 + c * (n / c) := by omega
    rw [if_pos hwithin, hnext, Nat.add_mul_div_left _ _ hpos, Nat.add_mul_mod_self_left,
      Nat.div_eq_of_lt hwithin, Nat.mod_eq_of_lt hwithin, Nat.zero_add]
  · have hnext : n + 1 = c * (n / c + 1) := by
      rw [Nat.mul_add, Nat.mul_one]
      omega
    rw [if_neg hwithin, hnext, Nat.mul_div_cancel_left _ hpos, Nat.mul_mod_right]

namespace VideoStandard

/-- In the `n`-th cycle the display goes blank: a line ends, and the next one is the first blank line
of its frame. -/
def Blanks (standard : VideoStandard) (n : Nat) : Prop :=
  ∃ k, n = standard.cyclesPerLine * k ∧ k % standard.linesPerFrame = standard.vblankStart

/-- How many times the display has gone blank when so many lines have ended. -/
def blanksWithin (standard : VideoStandard) (lines : Nat) : Nat :=
  (List.range' 1 lines).countP (· % standard.linesPerFrame = standard.vblankStart)

variable (standard : VideoStandard) (n : Nat)

theorem cyclesPerLine_pos : 0 < standard.cyclesPerLine := by cases standard <;> decide

/-- A line carries into the frame when it is the last one of it. -/
theorem wrap_line :
    (if n % standard.linesPerFrame + 1 ≥ standard.linesPerFrame then 0
      else n % standard.linesPerFrame + 1) = (n + 1) % standard.linesPerFrame := by
  have hpos : 0 < standard.linesPerFrame := by cases standard <;> decide
  have hsucc := div_mod_succ hpos n
  split
  · next hlast =>
    rw [if_neg (Nat.not_lt.2 hlast)] at hsucc
    exact (Prod.mk.inj hsucc).2.symm
  · next hwithin =>
    rw [if_pos (Nat.not_le.1 hwithin)] at hsucc
    exact (Prod.mk.inj hsucc).2.symm

theorem blanksWithin_succ : standard.blanksWithin (n + 1) =
    if (n + 1) % standard.linesPerFrame = standard.vblankStart then standard.blanksWithin n + 1
    else standard.blanksWithin n := by
  unfold blanksWithin
  rw [List.range'_1_concat, List.countP_append, List.countP_singleton, Nat.add_comm 1 n]
  simp only [decide_eq_true_eq]
  split <;> rfl

/-- The display goes blank when a line ends in front of the first blank one. -/
theorem blanks_iff : standard.Blanks n ↔
    standard.cyclesPerLine ∣ n ∧
      n / standard.cyclesPerLine % standard.linesPerFrame = standard.vblankStart := by
  constructor
  · rintro ⟨k, rfl, hk⟩
    rw [Nat.mul_div_cancel_left _ standard.cyclesPerLine_pos]
    exact ⟨Nat.dvd_mul_right _ _, hk⟩
  · rintro ⟨⟨k, rfl⟩, hk⟩
    rw [Nat.mul_div_cancel_left _ standard.cyclesPerLine_pos] at hk
    exact ⟨k, rfl, hk⟩

end VideoStandard

namespace Beam

/-- The beam `n` cycles behind its start. -/
def behind (standard : VideoStandard) (n : Nat) : Beam where
  standard
  line := n / standard.cyclesPerLine % standard.linesPerFrame
  cycle := n % standard.cyclesPerLine
  frame := standard.blanksWithin (n / standard.cyclesPerLine)

/-- **One cycle on**, with the signals that come in it. -/
theorem advance_behind (standard : VideoStandard) (n : Nat) :
    (behind standard n).advance.2 = behind standard (n + 1) ∧
    ((behind standard n).advance.1.hblank = true ↔ standard.cyclesPerLine ∣ n + 1) ∧
    ((behind standard n).advance.1.vblank = true ↔ standard.Blanks (n + 1)) := by
  have hsucc := div_mod_succ standard.cyclesPerLine_pos n
  rw [VideoStandard.blanks_iff, Nat.dvd_iff_mod_eq_zero]
  by_cases hwithin : n % standard.cyclesPerLine + 1 < standard.cyclesPerLine
  · rw [if_pos hwithin] at hsucc
    obtain ⟨hline, hcycle⟩ := Prod.mk.inj hsucc
    have hadvance : (behind standard n).advance =
        ({}, { behind standard n with cycle := n % standard.cyclesPerLine + 1 }) := if_pos hwithin
    have hnot : (n + 1) % standard.cyclesPerLine ≠ 0 := by
      rw [hcycle]
      exact Nat.succ_ne_zero _
    rw [hadvance]
    refine ⟨?_, iff_of_false nofun hnot, iff_of_false nofun fun h => hnot h.1⟩
    simp only [behind, hline, hcycle]
  · rw [if_neg hwithin] at hsucc
    obtain ⟨hline, hcycle⟩ := Prod.mk.inj hsucc
    have hnextLine : (behind standard n).nextLine.line =
        (n / standard.cyclesPerLine + 1) % standard.linesPerFrame := standard.wrap_line _
    have hframe : (behind standard n).nextLine.frame =
        standard.blanksWithin (n / standard.cyclesPerLine + 1) := by
      rw [standard.blanksWithin_succ, ← hnextLine]
      rfl
    have hnext : (behind standard n).nextLine = behind standard (n + 1) :=
      calc (behind standard n).nextLine
        _ = ⟨standard, (behind standard n).nextLine.line, 0, (behind standard n).nextLine.frame⟩ :=
          rfl
        _ = behind standard (n + 1) := by rw [hnextLine, hframe, behind, hline, hcycle]
    have hadvance : (behind standard n).advance =
        ({ hblank := true,
           vblank := (behind standard n).nextLine.line == standard.vblankStart },
          (behind standard n).nextLine) := if_neg hwithin
    rw [hadvance, hnext]
    exact ⟨rfl, iff_of_true rfl hcycle, beq_iff_eq.trans (and_iff_right hcycle).symm⟩

end Beam

/-! ## What is shown -/

/-- One call more, through something that calls may hold. -/
theorem filterMap_push {α : Type} (held? : RenderCall → Option α) (calls : Array RenderCall)
    (call : RenderCall) :
    (calls.push call).toList.filterMap held? =
      calls.toList.filterMap held? ++ (held? call).toList := by
  rw [Array.toList_push, List.filterMap_append, List.filterMap_cons, List.filterMap_nil]
  cases held? call <;> rfl

/-- The frame that a call hands over. -/
def RenderCall.frame? : RenderCall → Option Frame
  | .endFrame frame => some frame
  | .polygon _ | .rectangle _ | .line _ | .displayStart _ _ => none

/-- The frames that a recording renderer was shown, in order. -/
def Renderer.frames? : Renderer → Option (List Frame)
  | .null => none
  | .recording calls => some (calls.toList.filterMap RenderCall.frame?)

theorem Renderer.frames?_receive (r : Renderer) (call : RenderCall) :
    (r.receive call).frames? = r.frames?.map (· ++ call.frame?.toList) := by
  cases r with
  | null => rfl
  | recording calls => exact congrArg some (filterMap_push RenderCall.frame? calls call)

/-- A call that is not the end of a frame shows none. -/
theorem Renderer.frames?_receive_of_none (r : Renderer) {call : RenderCall}
    (h : call.frame? = none) : (r.receive call).frames? = r.frames? := by
  rw [r.frames?_receive call, h, Option.toList_none]
  simp only [List.append_nil, Option.map_id']

theorem RenderCall.frame?_of_isDrawing {call : RenderCall} (h : call.isDrawing = true) :
    call.frame? = none := by
  cases call with
  | displayStart x y => rfl
  | endFrame frame => cases h
  | _ => rfl

/-- The beam, and the frames that the renderer was shown. -/
def video (g : Gpu) : Beam × Option (List Frame) := (g.beam, g.renderer.frames?)

/-! ## What leaves the beam alone -/

section Elsewhere

variable (g : Gpu)

theorem video_consume : g.consume.video = g.video := by
  obtain ⟨hbeam, -, hrenderer⟩ := g.onlyDraws_consume
  have hframes : g.consume.renderer.frames? = g.renderer.frames? := by
    rcases hrenderer with hsame | ⟨call, hdrawing, htold⟩
    · rw [hsame]
    · rw [htold, Renderer.frames?_receive_of_none _ (RenderCall.frame?_of_isDrawing hdrawing)]
  exact Prod.ext hbeam hframes

theorem video_control (w : UInt32) : (g.control w).video = g.video := by
  unfold control
  split
  case h_6 =>
    exact congrArg (Prod.mk g.beam) (Renderer.frames?_receive_of_none g.renderer rfl)
  case h_11 =>
    split
    · unfold latchInfo
      split <;> rfl
    · rfl
  all_goals rfl

theorem video_readWord : g.readWord.2.video = g.video := by
  unfold readWord
  split
  · rfl
  · simp only
    split <;> rfl

end Elsewhere

/-- The operation neither lets time pass nor sets the beam to a start. -/
def Operation.isTimeless : Operation → Bool
  | .step | .reset | .selectStandard _ => false
  | .queue _ | .control _ | .read | .attach _ | .poke _ _ _ => true

/-- **No access moves the beam** or shows a frame. -/
theorem video_perform (g : Gpu) {o : Operation} (ho : o.isAccess = true) :
    (g.perform o).video = g.video := by
  cases o with
  | queue word => rfl
  | control word => exact g.video_control word
  | read => exact g.video_readWord
  | _ => cases ho

theorem video_performAll {operations : List Operation} (ho : ∀ o ∈ operations, o.isAccess = true) :
    ∀ g : Gpu, (g.performAll operations).video = g.video := by
  induction operations with
  | nil => exact fun _ => rfl
  | cons o operations ih =>
    obtain ⟨hfirst, hrest⟩ := List.forall_mem_cons.1 ho
    exact fun g => (ih hrest (g.perform o)).trans (g.video_perform hfirst)

theorem beam_perform (g : Gpu) {o : Operation} (ho : o.isTimeless = true) :
    (g.perform o).beam = g.beam := by
  cases o with
  | queue word => rfl
  | control word => exact congrArg Prod.fst (g.video_control word)
  | read => exact congrArg Prod.fst g.video_readWord
  | attach renderer => rfl
  | poke x y pixel => rfl
  | _ => cases ho

/-! ## A step -/

theorem events_advanceBeam (g : Gpu) : g.advanceBeam.1 = g.beam.advance.1 := by
  unfold advanceBeam
  simp only
  split <;> rfl

/-- The frame that is handed over is numbered by the count of frames that it is the last of. -/
theorem video_advanceBeam (g : Gpu) :
    ∃ shown : List Frame,
      shown.map Frame.number =
        (if g.beam.advance.1.vblank = true then [g.beam.advance.2.frame] else []) ∧
      g.advanceBeam.2.video = (g.beam.advance.2, g.renderer.frames?.map (· ++ shown)) := by
  unfold advanceBeam
  simp only
  split
  · exact ⟨[_], rfl, congrArg (Prod.mk g.beam.advance.2) (Renderer.frames?_receive _ _)⟩
  · refine ⟨[], rfl, ?_⟩
    simp only [List.append_nil, Option.map_id']
    rfl

/-- **A step** moves the beam by a cycle and reports its signals.  It shows one frame if the display
goes blank, and none otherwise. -/
theorem video_step (g : Gpu) :
    g.step.1.hblank = g.beam.advance.1.hblank ∧ g.step.1.vblank = g.beam.advance.1.vblank ∧
    ∃ shown : List Frame,
      shown.map Frame.number =
        (if g.beam.advance.1.vblank = true then [g.beam.advance.2.frame] else []) ∧
      g.step.2.video = (g.beam.advance.2, g.renderer.frames?.map (· ++ shown)) := by
  have hevents := g.events_advanceBeam
  have hconsume : g.step.2.video = g.advanceBeam.2.video := g.advanceBeam.2.video_consume
  rw [hconsume]
  exact ⟨congrArg (·.hblank) hevents, congrArg (·.vblank) hevents, g.video_advanceBeam⟩

end PlayStation.Gpu

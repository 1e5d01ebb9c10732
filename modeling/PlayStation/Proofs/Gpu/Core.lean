/-
  The CORE of a GPU: what words have made of it.

  A GPU changes for two reasons.  Words are taken from the FIFO and digested, and time passes: the
  beam moves, and with every frame the interlace field changes and the renderer is told.  The core
  leaves out what time alone changes, and the FIFO with it.

  1. **Time** (`core_advanceBeam`): the beam does not touch the core.

  2. **Words** (`core_digest`): digestion can be done on the core.  A command reads drawing
     settings, mask settings and texture page, which are all in the core, and so is what it writes.
     The proof goes through the commands; what there is to show is that each flag of the status
     word is read and written beside the interlace field.

  3. **A step** so either digests what is waiting, if all of it is there, or leaves the core alone
     (`core_step_cases`).

  4. **Beside the core** digestion does next to nothing (`onlyDraws_consume`): it does not move the
     beam, and it tells the renderer of primitives alone.
-/
import PlayStation.Proofs.Bits
import PlayStation.Proofs.Gpu.Reachable

namespace PlayStation.Gpu

open Word (bit)

/-! ## What time alone changes -/

/-- The status without the interlace field, which changes with every frame. -/
def Status.fieldless (s : Status) : Status := s.put .interlaceField false

/-- A primitive is drawn. -/
def RenderCall.isDrawing : RenderCall → Bool
  | .polygon _ | .rectangle _ | .line _ => true
  | .displayStart _ _ | .endFrame _ => false

/-- The renderer as if it had only been told of primitives. -/
def Renderer.drawn : Renderer → Renderer
  | .null => .null
  | .recording calls => .recording (calls.filter RenderCall.isDrawing)

/-- What the words that were taken have made of the GPU: all of it but for the FIFO and what changes
with time alone. -/
def core (g : Gpu) : Gpu :=
  { g with
    fifo := .empty
    status := g.status.fieldless
    renderer := g.renderer.drawn
    beam := {} }

/-! ## Flags beside the interlace field -/

namespace Status

theorem ext_flags {s t : Status} (h : ∀ n : UInt32, n < 32 → bit s.bits n = bit t.bits n) :
    s = t := congrArg Status.mk (Word.ext_bit h)

theorem bit_fieldless (s : Status) {n : UInt32} (hn : n < 32) :
    bit s.fieldless.bits n = if n = 13 then false else bit s.bits n :=
  Word.bit_withBit _ _ (by decide) hn

theorem position_lt (flag : StatusFlag) : flag.position < 32 := by cases flag <;> decide

theorem position_ne {flag : StatusFlag} (h : flag ≠ .interlaceField) : flag.position ≠ 13 := by
  cases flag with
  | interlaceField => exact absurd rfl h
  | _ => decide

theorem has_fieldless (s : Status) (flag : StatusFlag) (h : flag ≠ .interlaceField) :
    s.fieldless.has flag = s.has flag := by
  rw [has, bit_fieldless s (position_lt flag), if_neg (position_ne h)]
  rfl

theorem fieldless_put (s : Status) (flag : StatusFlag) (h : flag ≠ .interlaceField)
    (value : Bool) : (s.put flag value).fieldless = s.fieldless.put flag value := by
  apply ext_flags
  intro n hn
  rw [bit_fieldless _ hn, put, put, Word.bit_withBit _ _ (position_lt flag) hn,
    Word.bit_withBit _ _ (position_lt flag) hn, bit_fieldless _ hn]
  by_cases hfield : n = 13
  · have hother : n ≠ flag.position := fun heq => position_ne h (heq.symm.trans hfield)
    rw [if_pos hfield, if_neg hother, if_pos hfield]
  · rw [if_neg hfield, if_neg hfield]

/-- The interlace field itself is not looked at. -/
theorem fieldless_putField (s : Status) (value : Bool) :
    (s.put .interlaceField value).fieldless = s.fieldless := by
  apply ext_flags
  intro n hn
  rw [bit_fieldless _ hn, bit_fieldless _ hn, put, Word.bit_withBit _ _ (by decide) hn]
  by_cases hfield : n = 13
  · rw [if_pos hfield, if_pos hfield]
  · rw [if_neg hfield, if_neg hfield]
    exact if_neg hfield

theorem fieldless_merge (s : Status) (mask : UInt32) (hmask : bit mask 13 = false)
    (value : UInt32) :
    (Status.mk (Word.merge s.bits mask value)).fieldless =
      ⟨Word.merge s.fieldless.bits mask value⟩ := by
  apply ext_flags
  intro n hn
  rw [bit_fieldless _ hn, Word.bit_merge, Word.bit_merge, bit_fieldless _ hn]
  by_cases hfield : n = 13
  · rw [if_pos hfield, if_pos hfield, hfield, hmask]
    rfl
  · rw [if_neg hfield, if_neg hfield]

/-- A mask that leaves a flag out does not see it. -/
theorem mask_put (s : Status) (flag : StatusFlag) (value : Bool) {mask : UInt32}
    (hmask : bit mask flag.position = false) :
    (s.put flag value).bits &&& mask = s.bits &&& mask := by
  apply Word.ext_bit
  intro n hn
  rw [Word.bit_and, Word.bit_and, put, Word.bit_withBit _ _ (position_lt flag) hn]
  by_cases hflag : n = flag.position
  · rw [if_pos hflag, hflag, hmask, Bool.and_false, Bool.and_false]
  · rw [if_neg hflag]

theorem mask_fieldless (s : Status) (mask : UInt32) (hmask : bit mask 13 = false) :
    s.fieldless.bits &&& mask = s.bits &&& mask :=
  s.mask_put .interlaceField false hmask

end Status

/-! ## Time -/

theorem drawn_receive (r : Renderer) (call : RenderCall) :
    (r.receive call).drawn = if call.isDrawing then r.drawn.receive call else r.drawn := by
  cases r with
  | null => split <;> rfl
  | recording calls =>
    show Renderer.recording ((calls.push call).filter RenderCall.isDrawing) = _
    rw [Array.filter_push]
    split <;> rfl

theorem core_render (g : Gpu) {call : RenderCall} (h : call.isDrawing = true) :
    (g.render call).core = g.core.render call := by
  have hdrawn := drawn_receive g.renderer call
  rw [if_pos h] at hdrawn
  exact congrArg (fun renderer => { g.core with renderer }) hdrawn

/-- **The beam does not touch the core.**  The end of a frame is none of its business. -/
theorem core_advanceBeam (g : Gpu) : g.advanceBeam.2.core = g.core := by
  unfold advanceBeam
  simp only
  split
  · have hdrawn : ∀ frame, (g.renderer.receive (.endFrame frame)).drawn = g.renderer.drawn :=
      fun frame => drawn_receive g.renderer (.endFrame frame)
    simp only [core, render, hdrawn, Status.fieldless_putField]
  · rfl

theorem intake_advanceBeam (g : Gpu) : g.advanceBeam.2.intake = g.intake := by
  have hcore : g.advanceBeam.2.core.intake = g.core.intake := by rw [core_advanceBeam]
  exact hcore

/-! ## Digestion works on the core -/

theorem maskPolicy_core (g : Gpu) : g.core.maskPolicy = g.maskPolicy := by
  rw [maskPolicy, maskPolicy]
  congr 1
  · exact g.status.has_fieldless _ (by decide)
  · exact g.status.has_fieldless _ (by decide)

theorem currentPage_core (g : Gpu) : g.core.currentPage = g.currentPage := by
  have hpage : g.core.status.bits &&& 0x1FF = g.status.bits &&& 0x1FF :=
    g.status.mask_fieldless _ (by decide)
  have hdisable : g.core.status.has .textureDisable = g.status.has .textureDisable :=
    g.status.has_fieldless _ (by decide)
  rw [currentPage, currentPage, hpage, hdisable]

/-- A new status takes the place of the old one in the core as well. -/
theorem core_withStatus (g : Gpu) {s t : Status} (h : s.fieldless = t) :
    core { g with status := s } = { g.core with status := t } :=
  congrArg (fun status => { g.core with status }) h

theorem core_adoptPage (g : Gpu) (page : UInt16) :
    (g.adoptPage page).core = g.core.adoptPage page := by
  have hmerge := g.status.fieldless_merge 0x1FF (by decide) page.toUInt32
  apply core_withStatus
  show _ = if g.textureDisableAllowed then _ else _
  split
  · rw [Status.fieldless_put _ _ (by decide), hmerge]
    rfl
  · exact hmerge

theorem core_drawPolygon (g : Gpu) (style : PolygonStyle) (words : List UInt32) :
    (g.drawPolygon style words).core = g.core.drawPolygon style words := by
  have hsame : Polygon.ofWords? style g.core.drawingOffset g.core.drawingArea words =
      Polygon.ofWords? style g.drawingOffset g.drawingArea words := rfl
  rw [drawPolygon, drawPolygon, hsame]
  cases Polygon.ofWords? style g.drawingOffset g.drawingArea words with
  | none => rfl
  | some polygon =>
    simp only
    cases polygon.texture with
    | none => exact g.core_render rfl
    | some texture =>
      simp only
      rw [core_render _ rfl, core_adoptPage]

theorem core_drawLine (g : Gpu) (style : LineStyle) (words : List UInt32) :
    (g.drawLine style words).core = g.core.drawLine style words := by
  have hpen : Pen.ofWords? style g.core.drawingOffset words =
      Pen.ofWords? style g.drawingOffset words := rfl
  have hline : Line.ofWords? style g.core.drawingOffset g.core.drawingArea words =
      Line.ofWords? style g.drawingOffset g.drawingArea words := rfl
  rw [drawLine, drawLine, hpen, hline]
  by_cases hpolyline : style.polyline = true
  · rw [if_pos hpolyline, if_pos hpolyline]
    cases Pen.ofWords? style g.drawingOffset words <;> rfl
  · rw [if_neg hpolyline, if_neg hpolyline]
    cases Line.ofWords? style g.drawingOffset g.drawingArea words with
    | none => rfl
    | some line => exact g.core_render rfl

theorem core_drawRectangle (g : Gpu) (style : RectangleStyle) (words : List UInt32) :
    (g.drawRectangle style words).core = g.core.drawRectangle style words := by
  have hsame : Rectangle.ofWords? style g.core.currentPage g.core.drawingOffset g.core.drawingArea
      words = Rectangle.ofWords? style g.currentPage g.drawingOffset g.drawingArea words := by
    rw [currentPage_core]
    rfl
  rw [drawRectangle, drawRectangle, hsame]
  cases Rectangle.ofWords? style g.currentPage g.drawingOffset g.drawingArea words with
  | none => rfl
  | some rectangle => exact g.core_render rfl

theorem core_setDrawMode (g : Gpu) (w : UInt32) :
    (g.setDrawMode w).core = g.core.setDrawMode w := by
  have hstatus : ((g.status.setTexpage w).put .textureDisable
        (g.textureDisableAllowed && Word.bit w 11)).fieldless =
      (g.core.status.setTexpage w).put .textureDisable
        (g.textureDisableAllowed && Word.bit w 11) := by
    rw [Status.fieldless_put _ _ (by decide), Status.setTexpage,
      g.status.fieldless_merge 0x7FF (by decide) w]
    rfl
  exact core_withStatus { g with rectangleFlip := (Word.bit w 12, Word.bit w 13) } hstatus

/-- **A command works on the core**: nothing else has a say in what it does. -/
theorem core_execute (g : Gpu) (c : Command) (words : List UInt32) :
    (g.execute c words).core = g.core.execute c words := by
  unfold execute
  split
  -- the commands that touch the status word, the mask settings or the renderer
  case h_2 =>
    exact core_withStatus { g with interruptRequested := true }
      (g.status.fieldless_put .irq (by decide) true)
  case h_3 => exact g.core_drawPolygon _ _
  case h_4 => exact g.core_drawLine _ _
  case h_5 => exact g.core_drawRectangle _ _
  case h_6 _ source target size =>
    show _ = g.core.copyRectangle source target size
    rw [copyRectangle, copyRectangle, maskPolicy_core]
    rfl
  case h_8 _ position size =>
    exact core_withStatus { g with download := some _ }
      (g.status.fieldless_put .readyToSend (by decide) true)
  case h_9 w => exact g.core_setDrawMode w
  case h_14 w =>
    refine core_withStatus g ?_
    rw [Status.fieldless_put _ _ (by decide), Status.fieldless_put _ _ (by decide)]
    rfl
  -- the others write what the core shares with the GPU
  all_goals rfl

/-- **Digestion works on the core.** -/
theorem core_digest (g : Gpu) (first : UInt32) (words : List UInt32) (intake : Intake) :
    (g.digest first words intake).core = g.core.digest first words intake := by
  cases intake with
  | command => exact g.core_execute _ words
  | upload cursor =>
    rw [digest, digest, maskPolicy_core]
    rfl
  | polyline pen =>
    have hsame : pen.segment? g.core.drawingOffset g.core.drawingArea words =
        pen.segment? g.drawingOffset g.drawingArea words := rfl
    rw [digest, digest, hsame]
    by_cases hterminator : Pen.isTerminator first = true
    · rw [if_pos hterminator, if_pos hterminator]
      rfl
    · rw [if_neg hterminator, if_neg hterminator]
      cases pen.segment? g.drawingOffset g.drawingArea words with
      | none => rfl
      | some drawn => exact core_render { g with polyline := some drawn.2 } rfl

/-! ## Steps -/

section Step

variable (g : Gpu) {first : UInt32} {rest : List UInt32}

/-- A step changes the core as what it takes from the FIFO does. -/
theorem core_step_eq :
    g.step.2.core = { g.advanceBeam.2.consume.core with interruptRequested := false } := rfl

/-- **What is waiting is digested**, when all of it is there. -/
theorem core_step_of_complete (hwaiting : g.fifo.toList = first :: rest)
    (hcomplete : g.intake.appetite first ≤ (first :: rest).length) :
    g.step.2.core =
      { g.core.digest first ((first :: rest).take (g.intake.appetite first)) g.intake with
        interruptRequested := false } := by
  have hfifo : g.advanceBeam.2.fifo.toList = first :: rest := by rw [fifo_advanceBeam, hwaiting]
  have hintake := g.intake_advanceBeam
  have henough : ¬g.advanceBeam.2.fifo.size < g.intake.appetite first := by
    rw [← CommandFifo.length_toList, hfifo]
    exact Nat.not_lt.2 hcomplete
  rw [core_step_eq, consume_of_cons hfifo, hintake, if_neg henough, core_digest]
  show { Gpu.digest g.advanceBeam.2.core _ _ _ with interruptRequested := false } = _
  rw [core_advanceBeam]

/-- **The command that is waiting is run**, when all its words are there, and nothing else happens but
what time does. -/
theorem step_of_command (hidle : g.intake = .command) (hwaiting : g.fifo.toList = first :: rest)
    (hcomplete : (Command.ofWord first).length ≤ (first :: rest).length) :
    g.step.2 =
      { (g.advanceBeam.2.withFifo (g.fifo.take (Command.ofWord first).length).2).execute
          (Command.ofWord first) ((first :: rest).take (Command.ofWord first).length) with
        interruptRequested := false } := by
  have hfifo : g.advanceBeam.2.fifo.toList = first :: rest := by rw [fifo_advanceBeam, hwaiting]
  have hintake : g.advanceBeam.2.intake = .command := by rw [intake_advanceBeam, hidle]
  have henough : ¬g.fifo.size < (Command.ofWord first).length := by
    rw [← CommandFifo.length_toList, hwaiting]
    exact Nat.not_lt.2 hcomplete
  show ({ g.advanceBeam.2.consume with interruptRequested := false } : Gpu) = _
  rw [consume_of_cons hfifo, hintake, fifo_advanceBeam]
  exact congrArg (fun g : Gpu => { g with interruptRequested := false }) (if_neg henough)

/-- What is so run works on the core. -/
theorem core_step_of_command (hidle : g.intake = .command)
    (hwaiting : g.fifo.toList = first :: rest)
    (hcomplete : (Command.ofWord first).length ≤ (first :: rest).length) :
    g.step.2.core =
      { g.core.execute (Command.ofWord first)
          ((first :: rest).take (Command.ofWord first).length) with
        interruptRequested := false } := by
  have hwants : g.intake.appetite first = (Command.ofWord first).length := by
    rw [hidle]
    rfl
  have hstep := g.core_step_of_complete hwaiting (by rwa [hwants])
  rwa [hwants, hidle] at hstep

/-- **What a step can do** to the core: digest what is waiting, or nothing. -/
theorem core_step_cases :
    g.step.2.core = { g.core with interruptRequested := false } ∨
    ∃ first rest, g.fifo.toList = first :: rest ∧
      g.intake.appetite first ≤ (first :: rest).length ∧
      g.step.2.core =
        { g.core.digest first ((first :: rest).take (g.intake.appetite first)) g.intake with
          interruptRequested := false } := by
  cases hwaiting : g.fifo.toList with
  | nil =>
    left
    have hfifo : g.advanceBeam.2.fifo.toList = [] := by rw [fifo_advanceBeam, hwaiting]
    rw [core_step_eq, consume_of_nil hfifo, core_advanceBeam]
  | cons first rest =>
    rcases Nat.lt_or_ge (first :: rest).length (g.intake.appetite first) with hshort | hcomplete
    · left
      have hfifo : g.advanceBeam.2.fifo.toList = first :: rest := by
        rw [fifo_advanceBeam, hwaiting]
      have hintake := g.intake_advanceBeam
      have hless : g.advanceBeam.2.fifo.size < g.intake.appetite first := by
        rw [← CommandFifo.length_toList, hfifo]
        exact hshort
      rw [core_step_eq, consume_of_cons hfifo, hintake, if_pos hless, core_advanceBeam]
    · exact .inr ⟨first, rest, rfl, hcomplete, g.core_step_of_complete hwaiting hcomplete⟩

end Step

/-! ## Beside the core -/

/-- From `g` to `g'` the renderer was told of one primitive at most, and neither the beam nor the
displayed area was moved. -/
structure OnlyDraws (g g' : Gpu) : Prop where
  beam : g'.beam = g.beam
  displayStart : g'.displayStart = g.displayStart
  renderer : g'.renderer = g.renderer ∨
    ∃ call : RenderCall, call.isDrawing = true ∧ g'.renderer = g.renderer.receive call

theorem Draws.onlyDraws {g g' : Gpu} (h : g.Draws g') : g.OnlyDraws g' := by
  cases h with
  | nothing => exact ⟨rfl, rfl, .inl rfl⟩
  | penDown pen => exact ⟨rfl, rfl, .inl rfl⟩
  | _ => exact ⟨rfl, rfl, .inr ⟨_, rfl, rfl⟩⟩

section Digestion

variable (g : Gpu)

theorem onlyDraws_execute (c : Command) (words : List UInt32) :
    g.OnlyDraws (g.execute c words) := by
  unfold execute
  split
  case h_3 => exact (g.draws_drawPolygon words _).onlyDraws
  case h_4 => exact (g.draws_drawLine words _).onlyDraws
  case h_5 => exact (g.draws_drawRectangle words _).onlyDraws
  -- the others have nothing to tell the renderer
  all_goals exact ⟨rfl, rfl, .inl rfl⟩

theorem onlyDraws_digest (first : UInt32) (words : List UInt32) (intake : Intake) :
    g.OnlyDraws (g.digest first words intake) := by
  cases intake with
  | command => exact g.onlyDraws_execute _ words
  | upload cursor => exact ⟨rfl, rfl, .inl rfl⟩
  | polyline pen =>
    unfold digest
    simp only
    split
    · exact ⟨rfl, rfl, .inl rfl⟩
    · split
      · exact ⟨rfl, rfl, .inl rfl⟩
      · exact ⟨rfl, rfl, .inr ⟨_, rfl, rfl⟩⟩

/-- **What is taken from the FIFO only draws.** -/
theorem onlyDraws_consume : g.OnlyDraws g.consume := by
  cases hwords : g.fifo.toList with
  | nil =>
    rw [consume_of_nil hwords]
    exact ⟨rfl, rfl, .inl rfl⟩
  | cons first rest =>
    rw [consume_of_cons hwords]
    split
    · exact ⟨rfl, rfl, .inl rfl⟩
    · obtain ⟨hbeam, hstart, hrenderer⟩ :=
        onlyDraws_digest (g.withFifo (g.fifo.take (g.intake.appetite first)).2) first
          ((first :: rest).take (g.intake.appetite first)) g.intake
      exact ⟨hbeam, hstart, hrenderer⟩

end Digestion

end PlayStation.Gpu

/-
  MASKED pixels are protected, over whole runs.

  Bit 15 of a pixel is its mask.  Mask settings say of everything that writes to video memory, but
  for a fill, whether it keeps masked pixels and whether it masks what it writes.

  1. **One pixel** is written as its policy allows (`allows_plot`).  What is allowed is allowed twice
     in a row (`MaskPolicy.Allows.trans`): a pixel that has just been masked is already protected
     from the next write.  So a copy, which may overlap itself, writes as allowed, and so does a
     word of an upload.

  2. **One step** without a fill writes as the mask settings in front of it allow (`allows_step`).
     The settings may change in a step, but then it writes nothing.

  3. **A run** (`keepsMasked`), by induction on its operations: as long as masked pixels are to be kept
     and no fill is run, a pixel that is masked keeps its value (`performAll_masks`).
-/
import PlayStation.Proofs.Gpu.Transfers

namespace PlayStation.Gpu

/-! ## What a policy allows -/

/-- The pixel has the mask bit. -/
def isMasked (pixel : UInt16) : Bool := pixel &&& 0x8000 != 0

/-- A change of video memory that a mask policy allows. -/
structure MaskPolicy.Allows (policy : MaskPolicy) (before after : Vram) : Prop where
  /-- Masked pixels are kept, if they are to be. -/
  kept : policy.keep = true → ∀ x y, isMasked (before.get x y) = true →
    after.get x y = before.get x y
  /-- Pixels that have changed are masked, if they are to be. -/
  forced : policy.force = true → ∀ x y, after.get x y ≠ before.get x y →
    isMasked (after.get x y) = true

/-- What is written with the mask bit has it. -/
theorem isMasked_or (pixel : UInt16) : isMasked (pixel ||| 0x8000) = true := by
  have habsorb : (pixel ||| 0x8000) &&& 0x8000 = 0x8000 := by
    apply UInt16.toBitVec_inj.1
    apply BitVec.eq_of_getLsbD_eq
    intro i _
    rw [UInt16.toBitVec_and, UInt16.toBitVec_or, BitVec.getLsbD_and, BitVec.getLsbD_or]
    cases (0x8000 : UInt16).toBitVec.getLsbD i <;> simp
  rw [isMasked, habsorb]
  decide

namespace MaskPolicy.Allows

variable {policy : MaskPolicy}

theorem refl (v : Vram) : policy.Allows v v where
  kept _ _ _ _ := rfl
  forced _ _ _ h := absurd rfl h

theorem of_eq {v v' : Vram} (h : v' = v) : policy.Allows v v' := by
  rw [h]
  exact refl v

/-- **What is allowed stays allowed** when more of it is done. -/
theorem trans {u v w : Vram} (huv : policy.Allows u v) (hvw : policy.Allows v w) :
    policy.Allows u w where
  kept := by
    intro hkeep x y hmasked
    have hfirst := huv.kept hkeep x y hmasked
    -- the pixel is still masked when the second change comes
    have hstill : isMasked (v.get x y) = true := by rw [hfirst]; exact hmasked
    exact (hvw.kept hkeep x y hstill).trans hfirst
  forced := by
    intro hforce x y hchanged
    by_cases hsecond : w.get x y = v.get x y
    · rw [hsecond] at hchanged ⊢
      exact huv.forced hforce x y hchanged
    · exact hvw.forced hforce x y hsecond

/-- So it is when it is done any number of times. -/
theorem fold {n : Nat} {f : (i : Nat) → i < n → Vram → Vram}
    (h : ∀ i hi v, policy.Allows v (f i hi v)) (v : Vram) : policy.Allows v (n.fold f v) := by
  induction n with
  | zero => exact refl v
  | succ n ih =>
    rw [Nat.fold_succ]
    exact (ih fun i hi => h i (Nat.lt_succ_of_lt hi)).trans (h n (Nat.lt_succ_self n) _)

end MaskPolicy.Allows

section Writers

variable (policy : MaskPolicy)

/-- **One pixel** is written as allowed. -/
theorem allows_plot (v : Vram) (x y : Nat) (pixel : UInt16) :
    policy.Allows v (v.plot policy x y pixel) := by
  constructor
  · intro hkeep x' y' hmasked
    rw [Vram.get_plot]
    split
    · have hguard : (policy.keep && v.get x' y' &&& 0x8000 != 0) = true := by
        rw [hkeep, Bool.true_and]
        exact hmasked
      rw [MaskPolicy.over, if_pos hguard]
    · rfl
  · intro hforce x' y' hchanged
    rw [Vram.get_plot] at hchanged ⊢
    by_cases hplace : x % 1024 = x' % 1024 ∧ y % 512 = y' % 512
    · rw [if_pos hplace, MaskPolicy.over] at hchanged ⊢
      split at hchanged
      · exact absurd rfl hchanged
      · next hguard =>
        rw [if_neg hguard, if_pos hforce]
        exact isMasked_or pixel
    · rw [if_neg hplace] at hchanged
      exact absurd rfl hchanged

theorem allows_copy (v : Vram) (sourceX sourceY x y width height : Nat) :
    policy.Allows v (v.copy policy sourceX sourceY x y width height) := by
  unfold Vram.copy Vram.walk
  refine MaskPolicy.Allows.fold (fun row _ v => ?_) v
  exact MaskPolicy.Allows.fold (fun column _ v => allows_plot policy v _ _ _) v

theorem allows_place (pixel : UInt16) (c : VramCursor) (v : Vram) :
    policy.Allows v (place policy pixel c v).2 := by
  unfold place
  split
  · exact .refl v
  · exact allows_plot policy v _ _ pixel

end Writers

/-! ## What the GPU writes -/

section Gpu

variable (g : Gpu)

/-- The next step runs a fill: it waits in front with all its words. -/
def runsFill : Bool :=
  match g.fifo.toList with
  | [] => false
  | first :: rest =>
    decide (g.intake = .command ∧ Command.ofWord first = .fill ∧
      Command.fill.length ≤ (first :: rest).length)

/-- What is meant by that: such a step writes what the fill writes. -/
theorem vram_step_of_runsFill (h : g.runsFill = true) :
    ∃ color position size, g.step.2.vram = (g.fillRectangle color position size).vram := by
  cases hwaiting : g.fifo.toList with
  | nil =>
    rw [runsFill, hwaiting] at h
    cases h
  | cons first rest =>
    rw [runsFill, hwaiting] at h
    obtain ⟨hcommand, hfill, hlength⟩ := of_decide_eq_true h
    have hstep := g.core_step_of_command hcommand hwaiting (by rw [hfill]; exact hlength)
    obtain _ | ⟨position, _ | ⟨size, rest⟩⟩ := rest
    iterate 2 · simp [Command.length] at hlength
    refine ⟨first, position, size, ?_⟩
    show g.step.2.core.vram = _
    rw [hstep, hfill]
    rfl

theorem vram_draws {g g' : Gpu} (h : g.Draws g') : g'.vram = g.vram := by
  cases h <;> rfl

/-- **A command**, but for a fill, writes as the mask settings allow. -/
theorem allows_execute {c : Command} (hfill : c ≠ .fill) (words : List UInt32) :
    g.maskPolicy.Allows g.vram (g.execute c words).vram := by
  unfold execute
  split
  case h_1 => exact absurd rfl hfill
  -- primitives are left to the renderer
  case h_3 => exact .of_eq (vram_draws (g.draws_drawPolygon _ _))
  case h_4 => exact .of_eq (vram_draws (g.draws_drawLine _ _))
  case h_5 => exact .of_eq (vram_draws (g.draws_drawRectangle _ _))
  case h_6 => exact allows_copy g.maskPolicy g.vram _ _ _ _ _ _
  all_goals exact .of_eq rfl

theorem allows_digest {first : UInt32} (words : List UInt32) {intake : Intake}
    (hfill : intake = .command → Command.ofWord first ≠ .fill) :
    g.maskPolicy.Allows g.vram (g.digest first words intake).vram := by
  cases intake with
  | command => exact g.allows_execute (hfill rfl) words
  | upload cursor => exact (allows_place _ _ _ _).trans (allows_place _ _ _ _)
  | polyline pen =>
    rw [digest]
    split
    · exact .refl _
    · split <;> exact .refl _

/-- **A step without a fill** writes as the mask settings in front of it allow. -/
theorem allows_step (hfill : g.runsFill = false) :
    g.maskPolicy.Allows g.vram g.step.2.vram := by
  show g.maskPolicy.Allows g.vram g.step.2.core.vram
  rcases g.core_step_cases with hidle | ⟨first, rest, hwaiting, hcomplete, htaken⟩
  · rw [hidle]
    exact .refl _
  · have hother : g.intake = .command → Command.ofWord first ≠ .fill := by
      intro hcommand hfirst
      rw [hcommand, Intake.appetite, hfirst] at hcomplete
      rw [runsFill, hwaiting] at hfill
      exact of_decide_eq_false hfill ⟨hcommand, hfirst, hcomplete⟩
    rw [htaken, ← maskPolicy_core]
    exact g.core.allows_digest _ hother

end Gpu

/-! ## Runs -/

/-- The operation writes to video memory under the mask settings, or not at all. -/
def Operation.underMasks (g : Gpu) : Operation → Bool
  | .queue _ | .control _ | .read | .selectStandard _ | .attach _ => true
  | .step => !g.runsFill
  | .reset | .poke _ _ _ => false

/-- Operations that write to video memory under mask settings, which say all the time that masked
pixels are to be kept. -/
def keepsMasked (g : Gpu) : List Operation → Bool
  | [] => true
  | o :: operations =>
    g.status.has .checkMask && o.underMasks g && (g.perform o).keepsMasked operations

theorem vram_control (g : Gpu) (w : UInt32) : (g.control w).vram = g.vram := by
  unfold control
  split
  case h_11 =>
    split
    · unfold latchInfo
      split <;> rfl
    · rfl
  all_goals rfl

theorem vram_readWord (g : Gpu) : g.readWord.2.vram = g.vram := by
  unfold readWord
  split
  · rfl
  · simp only
    split <;> rfl

theorem allows_perform (g : Gpu) {o : Operation} (h : o.underMasks g = true) :
    g.maskPolicy.Allows g.vram (g.perform o).vram := by
  cases o with
  | control word => exact .of_eq (g.vram_control word)
  | read => exact .of_eq g.vram_readWord
  | step => exact g.allows_step (by simpa [Operation.underMasks] using h)
  | reset => cases h
  | poke x y pixel => cases h
  | _ => exact .refl _

section Runs

variable {g : Gpu}

theorem keepsMasked_cons {o : Operation} {operations : List Operation}
    (h : g.keepsMasked (o :: operations) = true) :
    g.status.has .checkMask = true ∧ o.underMasks g = true ∧
      (g.perform o).keepsMasked operations = true := by
  rw [keepsMasked, Bool.and_eq_true, Bool.and_eq_true] at h
  exact ⟨h.1.1, h.1.2, h.2⟩

/-- What is left of such operations is such as well. -/
theorem keepsMasked_append {more : List Operation} (operations : List Operation) : ∀ {g : Gpu},
    g.keepsMasked (operations ++ more) = true →
    (g.performAll operations).keepsMasked more = true := by
  induction operations with
  | nil => exact fun h => h
  | cons o operations ih =>
    intro g h
    exact ih (keepsMasked_cons h).2.2

/-- **Masked pixels are kept**, however long the run. -/
theorem get_performAll_masked {x y : Nat} (operations : List Operation) : ∀ {g : Gpu},
    g.keepsMasked operations = true → isMasked (g.vram.get x y) = true →
    (g.performAll operations).vram.get x y = g.vram.get x y := by
  induction operations with
  | nil => exact fun _ _ => rfl
  | cons o operations ih =>
    intro g h hmasked
    obtain ⟨hkeep, hunder, hrest⟩ := keepsMasked_cons h
    have hfirst := (g.allows_perform hunder).kept hkeep x y hmasked
    have hstill : isMasked ((g.perform o).vram.get x y) = true := by
      rw [hfirst]
      exact hmasked
    exact (ih hrest hstill).trans hfirst

/-- **Mask protection over a run**: as long as masked pixels are to be kept and no fill is run, a
pixel that is masked in the beginning has its value in the end; and a pixel whose value changes in a
step that is to mask what it writes is masked behind it. -/
theorem performAll_masks {operations : List Operation} (h : g.keepsMasked operations = true) :
    (∀ x y, isMasked (g.vram.get x y) = true →
      (g.performAll operations).vram.get x y = g.vram.get x y) ∧
    (∀ before after, operations = before ++ .step :: after →
      (g.performAll before).status.has .setMask = true →
      ∀ x y, (g.performAll (before ++ [.step])).vram.get x y ≠
          (g.performAll before).vram.get x y →
        isMasked ((g.performAll (before ++ [.step])).vram.get x y) = true) := by
  constructor
  · intro x y hmasked
    exact get_performAll_masked operations h hmasked
  · rintro before after rfl hforce x y hchanged
    obtain ⟨-, hunder, -⟩ := keepsMasked_cons (keepsMasked_append before h)
    have hstep : g.performAll (before ++ [.step]) = (g.performAll before).perform .step :=
      List.foldl_append
    rw [hstep] at hchanged ⊢
    exact ((g.performAll before).allows_perform hunder).forced hforce x y hchanged

end Runs

/-- An upload of two pixels that meets a masked one, under settings that keep and set the mask. -/
theorem performAll_masks_upload :
    let start : Gpu :=
      { vram := Vram.black.set 1 0 0x8001
        status := (Status.powerOn.put .setMask true).put .checkMask true
        upload := some { x := 0, y := 0, width := 2, height := 1 } }
    let last := start.performAll [.queue 0x22221111, .step]
    last.vram.get 1 0 = 0x8001 ∧ start.vram.get 0 0 = 0 ∧ last.vram.get 0 0 = 0x9111 ∧
      isMasked (last.vram.get 0 0) = true := by
  intro start last
  have hrun : start.keepsMasked ([.queue 0x22221111] ++ .step :: []) = true := by decide +kernel
  have hold : ∀ x y, start.vram.get x y =
      if 1 % 1024 = x % 1024 ∧ 0 % 512 = y % 512 then 0x8001 else 0 := by
    intro x y
    refine (Vram.black.get_set 1 0 0x8001 x y).trans (if_congr Iff.rfl rfl ?_)
    exact Table.entry_replicate _ _
  have hzero : start.vram.get 0 0 = 0 := (hold 0 0).trans (if_neg (by decide))
  have hone : start.vram.get 1 0 = 0x8001 := (hold 1 0).trans (if_pos (by decide))
  have hnew : last.vram.get 0 0 = 0x9111 := by
    have hwaiting : (start.queue 0x22221111).fifo.toList = [0x22221111] := by decide +kernel
    have hupload : (start.queue 0x22221111).upload = start.upload := rfl
    obtain ⟨hpixels, -⟩ := step_uploadWord hupload hwaiting (by decide)
    show (start.queue 0x22221111).step.2.vram.get 0 0 = _
    rw [hpixels, Vram.get_plot, if_neg (by decide), Vram.get_plot, if_pos (by decide)]
    show MaskPolicy.over _ (start.vram.get 0 0) _ = _
    rw [hzero]
    decide +kernel
  obtain ⟨hkept, hforced⟩ := performAll_masks hrun
  refine ⟨(hkept 1 0 ?_).trans hone, hzero, hnew, ?_⟩
  · rw [hone]
    decide
  · refine hforced [.queue 0x22221111] [] rfl (by decide +kernel) 0 0 ?_
    show last.vram.get 0 0 ≠ start.vram.get 0 0
    rw [hnew, hzero]
    decide

end PlayStation.Gpu

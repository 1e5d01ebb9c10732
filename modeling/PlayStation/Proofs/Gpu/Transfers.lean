/-
  The TRANSFERS of a GPU, and the order they are in at all times.

  An upload and a polyline take the words of the FIFO, and a download answers reads.  A flag of the
  status word says of the last that there is something to read; DMA waits for it, so it has to be
  right.  The GPU keeps an upload and a polyline apart from each other, and could hold both.

  1. **What can happen** to them (`Transfers.Becomes`): they begin, go on and end in a few ways, and
     an upload or a polyline begins where neither is on: they begin with commands, and words are
     taken for commands only then.

  2. **Every operation** does one of these things (`becomes_perform`).  Most registers are written
     beside the transfers.  What there is to show is that their flag is not touched by the other
     writers of the status word.

  3. **Each of these things** keeps the transfers in order (`Transfers.InOrder.becomes`): an upload
     comes on by two pixels at a time through a rectangle with an even number of them, and what has
     passed its last pixel is over.  So they are in order in every reachable state.

  4. **Words** of an upload then find room for both their pixels, and reads of a download find at
     least one (`transfers_reachable`).
-/
import PlayStation.Proofs.Gpu.Download

namespace PlayStation.Gpu

open Word (bit)

/-! ## The transfers -/

/-- What is under way between a GPU and the outside. -/
structure Transfers where
  /-- The flag that says that there is something to read, as it is stored. -/
  ready : Bool := false
  download : Option VramCursor := none
  upload : Option VramCursor := none
  polyline : Option Pen := none

/-- The transfers of a GPU. -/
def transfers (g : Gpu) : Transfers where
  ready := g.status.has .readyToSend
  download := g.download
  upload := g.upload
  polyline := g.polyline

/-- The cursor behind the next two pixels, if there are more behind these. -/
def VramCursor.afterWord? (c : VramCursor) : Option VramCursor :=
  if c.index + 2 < c.total then some (c.moveTo (c.index + 2)) else none

namespace Transfers

/-- What can happen to the transfers. -/
inductive Becomes : Transfers → Transfers → Prop
  | stays (t : Transfers) : Becomes t t
  /-- Everything is given up. -/
  | isReset (t : Transfers) : Becomes t {}
  /-- What was taking words is given up. -/
  | isEmptied (t : Transfers) : Becomes t { t with upload := none, polyline := none }
  | beginsUpload {t : Transfers} (position size : UInt32) (hupload : t.upload = none)
      (hpolyline : t.polyline = none) :
      Becomes t { t with upload := some (uploadArea position size) }
  /-- The upload takes a word. -/
  | takesWord {t : Transfers} {c : VramCursor} (hupload : t.upload = some c) :
      Becomes t { t with upload := c.afterWord? }
  | beginsPolyline {t : Transfers} (pen : Pen) (hupload : t.upload = none)
      (hpolyline : t.polyline = none) : Becomes t { t with polyline := some pen }
  /-- The pen moves on, or it is lifted. -/
  | takesSegment {t : Transfers} {pen : Pen} (next : Option Pen)
      (hpolyline : t.polyline = some pen) : Becomes t { t with polyline := next }
  | beginsDownload (t : Transfers) (position size : UInt32) :
      Becomes t { t with ready := true, download := some (downloadArea position size) }
  /-- A word of the download is read. -/
  | isRead {t : Transfers} {c : VramCursor} (hdownload : t.download = some c) :
      Becomes t { t with ready := t.ready && c.afterWord?.isSome, download := c.afterWord? }

/-- The transfers are in order. -/
structure InOrder (t : Transfers) : Prop where
  /-- The flag is right. -/
  ready : t.ready = t.download.isSome
  /-- There is a pixel left to read. -/
  download : ∀ c, t.download = some c → c.index < c.width * c.height
  /-- Whole data words are left to take. -/
  upload : ∀ c, t.upload = some c →
    c.x % 2 = 0 ∧ c.width % 2 = 0 ∧ c.index % 2 = 0 ∧ c.index < c.width * c.height
  /-- Words are taken for one thing at a time. -/
  exclusive : t.upload = none ∨ t.polyline = none

end Transfers

/-! ## What happens to them in order -/

theorem afterWord?_eq_some {c c' : VramCursor} (h : c.afterWord? = some c') :
    c.index + 2 < c.total ∧ c' = c.moveTo (c.index + 2) := by
  unfold VramCursor.afterWord? at h
  split at h
  · next hlt => exact ⟨hlt, (Option.some.inj h).symm⟩
  · cases h

/-- The left edge of an upload is rounded up, and with it the width. -/
theorem uploadArea_even (position size : UInt32) :
    (uploadArea position size).x % 2 = 0 ∧ (uploadArea position size).width % 2 = 0 := by
  rw [uploadArea_eq]
  constructor
  · show ((positionOf position).1 + 1) / 2 * 2 % 1024 % 2 = 0
    omega
  · exact Nat.mul_mod_left _ 2

theorem downloadArea_pos (position size : UInt32) : 0 < (downloadArea position size).total :=
  Nat.mul_pos (extent_bounds _ (by decide)).1 (extent_bounds _ (by decide)).1

namespace Transfers.InOrder

variable {t t' : Transfers}

theorem idle : InOrder {} where
  ready := rfl
  download := by rintro c ⟨⟩
  upload := by rintro c ⟨⟩
  exclusive := .inl rfl

/-- **What happens leaves the transfers in order.** -/
theorem becomes (h : t.InOrder) (hbecomes : t.Becomes t') : t'.InOrder := by
  cases hbecomes with
  | stays => exact h
  | isReset => exact idle
  | isEmptied =>
    refine ⟨h.ready, h.download, ?_, .inl rfl⟩
    rintro c ⟨⟩
  | beginsUpload position size hupload hpolyline =>
    refine ⟨h.ready, h.download, ?_, .inr hpolyline⟩
    rintro c ⟨⟩
    obtain ⟨hx, hwidth⟩ := uploadArea_even position size
    exact ⟨hx, hwidth, rfl, (uploadArea_bounds position size).1⟩
  | @takesWord c hupload =>
    refine ⟨h.ready, h.download, ?_, ?_⟩
    · intro c' hc'
      obtain ⟨hlt, rfl⟩ := afterWord?_eq_some hc'
      obtain ⟨hx, hwidth, hindex, -⟩ := h.upload c hupload
      refine ⟨hx, hwidth, ?_, hlt⟩
      show (c.index + 2) % 2 = 0
      omega
    · -- there is no polyline beside an upload
      rcases h.exclusive with hnone | hnone
      · rw [hupload] at hnone
        cases hnone
      · exact .inr hnone
  | beginsPolyline pen hupload hpolyline => exact ⟨h.ready, h.download, h.upload, .inl hupload⟩
  | takesSegment next hpolyline =>
    refine ⟨h.ready, h.download, h.upload, ?_⟩
    rcases h.exclusive with hnone | hnone
    · exact .inl hnone
    · rw [hpolyline] at hnone
      cases hnone
  | beginsDownload position size =>
    refine ⟨rfl, ?_, h.upload, h.exclusive⟩
    rintro c ⟨⟩
    exact downloadArea_pos position size
  | @isRead c hdownload =>
    refine ⟨?_, ?_, h.upload, h.exclusive⟩
    · show (t.ready && _) = _
      rw [h.ready, hdownload]
      exact Bool.true_and _
    · intro c' hc'
      obtain ⟨hlt, rfl⟩ := afterWord?_eq_some hc'
      exact hlt

end Transfers.InOrder

/-! ## Two pixels of a rectangle -/

namespace VramCursor

/-- The cursor behind the next pixel, if there is one. -/
def passed (c : VramCursor) : VramCursor :=
  if c.index < c.total then c.moveTo (c.index + 1) else c

/-- What is left of an upload or a download that came as far as a cursor. -/
def rest? (c : VramCursor) : Option VramCursor := if c.isDone then none else some c

theorem passed_of_lt {c : VramCursor} (h : c.index < c.total) : c.passed = c.moveTo (c.index + 1) :=
  if_pos h

theorem passed_of_le {c : VramCursor} (h : c.total ≤ c.index) : c.passed = c :=
  if_neg (Nat.not_lt.2 h)

theorem rest?_of_le {c : VramCursor} (h : c.total ≤ c.index) : c.rest? = none := by
  rw [rest?, isDone_eq, decide_eq_true h]
  rfl

/-- Two pixels are those of a word. -/
theorem rest?_passed (c : VramCursor) : c.passed.passed.rest? = c.afterWord? := by
  rcases Nat.lt_or_ge c.index c.total with hone | hdone
  · rw [passed_of_lt hone]
    rcases Nat.lt_or_ge (c.index + 1) c.total with htwo | hlast
    · rw [passed_of_lt (c := c.moveTo (c.index + 1)) htwo, rest?, isDone_eq]
      show (if decide (c.total ≤ c.index + 2) = true then none else some (c.moveTo (c.index + 2))) = _
      rw [afterWord?]
      by_cases hmore : c.index + 2 < c.total
      · rw [if_pos hmore, decide_eq_false (Nat.not_le.2 hmore)]
        rfl
      · rw [if_neg hmore, decide_eq_true (Nat.not_lt.1 hmore)]
        rfl
    · rw [passed_of_le (c := c.moveTo (c.index + 1)) hlast, rest?_of_le hlast, afterWord?,
        if_neg (by omega)]
  · rw [passed_of_le hdone, passed_of_le hdone, rest?_of_le hdone, afterWord?, if_neg (by omega)]

end VramCursor

/-- A pixel that is written moves the cursor on, and so does one that is read. -/
theorem cursor_place (policy : MaskPolicy) (pixel : UInt16) (c : VramCursor) (v : Vram) :
    (place policy pixel c v).1 = c.passed := by
  rcases Nat.lt_or_ge c.index c.total with hlt | hdone
  · rw [VramCursor.passed_of_lt hlt]
    exact congrArg Prod.fst (place_of_lt policy pixel v hlt)
  · rw [place, c.next?_eq, if_neg (Nat.not_lt.2 hdone), VramCursor.passed_of_le hdone]

theorem cursor_nextPixel (g : Gpu) (c : VramCursor) : (g.nextPixel c).2 = c.passed := by
  rcases Nat.lt_or_ge c.index c.total with hlt | hdone
  · rw [VramCursor.passed_of_lt hlt]
    exact congrArg Prod.snd (nextPixel_of_lt (g := g) hlt)
  · rw [nextPixel, c.next?_eq, if_neg (Nat.not_lt.2 hdone), VramCursor.passed_of_le hdone]

/-! ## The flag beside the others -/

theorem ready_powerOn : Status.powerOn.has .readyToSend = false := by decide

theorem ready_put (s : Status) {flag : StatusFlag} (h : flag ≠ .readyToSend) (value : Bool) :
    (s.put flag value).has .readyToSend = s.has .readyToSend := by
  have hother : (27 : UInt32) ≠ flag.position := by
    cases flag with
    | readyToSend => exact absurd rfl h
    | _ => decide
  exact (bit_put s flag value (n := 27) (by decide)).trans (if_neg hother)

theorem ready_merge (s : Status) {mask : UInt32} (hmask : bit mask 27 = false) (value : UInt32) :
    (Status.mk (Word.merge s.bits mask value)).has .readyToSend = s.has .readyToSend := by
  show bit (Word.merge s.bits mask value) 27 = _
  rw [Word.bit_merge, hmask]
  rfl

theorem ready_setDisplayMode (s : Status) (w : UInt32) :
    (s.setDisplayMode w).has .readyToSend = s.has .readyToSend := by
  unfold Status.setDisplayMode
  iterate 6 rw [ready_put _ (by decide)]
  exact ready_merge s (by decide) _

theorem ready_adoptPage (g : Gpu) (page : UInt16) :
    (g.adoptPage page).status.has .readyToSend = g.status.has .readyToSend := by
  unfold adoptPage
  simp only
  split
  · rw [ready_put _ (by decide)]
    exact ready_merge g.status (by decide) _
  · exact ready_merge g.status (by decide) _

/-! ## Operations -/

section Operations

variable (g : Gpu)

/-- Transfers that are the same from part to part. -/
theorem transfers_congr {g g' : Gpu}
    (hready : g'.status.has .readyToSend = g.status.has .readyToSend)
    (hdownload : g'.download = g.download) (hupload : g'.upload = g.upload)
    (hpolyline : g'.polyline = g.polyline) :
    g'.transfers = g.transfers := by
  unfold transfers
  rw [hready, hdownload, hupload, hpolyline]

theorem becomes_of_eq {g g' : Gpu} (h : g'.transfers = g.transfers) :
    g.transfers.Becomes g'.transfers := by
  rw [h]
  exact .stays _

/-- Only what words have made of the GPU matters. -/
theorem transfers_core : g.core.transfers = g.transfers :=
  transfers_congr g.readyToSend_core rfl rfl rfl

/-- Only a polyline is a transfer. -/
theorem becomes_draws {g g' : Gpu} (hidle : g.intake = .command) (h : g.Draws g') :
    g.transfers.Becomes g'.transfers := by
  cases h with
  | texturedPolygon page p =>
    exact becomes_of_eq (transfers_congr (g.ready_adoptPage page) rfl rfl rfl)
  | penDown pen =>
    obtain ⟨hupload, hpolyline⟩ := intake_eq_command_iff.1 hidle
    exact .beginsPolyline pen hupload hpolyline
  | _ => exact .stays _

/-- **A command** leaves the transfers as they are or begins one of them. -/
theorem becomes_execute (hidle : g.intake = .command) (c : Command) (words : List UInt32) :
    g.transfers.Becomes (g.execute c words).transfers := by
  obtain ⟨hupload, hpolyline⟩ := intake_eq_command_iff.1 hidle
  unfold execute
  split
  case h_2 => exact becomes_of_eq (transfers_congr (ready_put _ (by decide) _) rfl rfl rfl)
  case h_3 => exact becomes_draws hidle (g.draws_drawPolygon _ _)
  case h_4 => exact becomes_draws hidle (g.draws_drawLine _ _)
  case h_5 => exact becomes_draws hidle (g.draws_drawRectangle _ _)
  case h_7 position size =>
    rw [startUpload_eq]
    exact .beginsUpload position size hupload hpolyline
  case h_8 position size =>
    show g.transfers.Becomes ⟨(g.status.put .readyToSend true).has .readyToSend, _, _, _⟩
    rw [ready_put_self]
    exact .beginsDownload _ position size
  case h_9 =>
    refine becomes_of_eq (transfers_congr ((ready_put _ (by decide) _).trans ?_) rfl rfl rfl)
    exact ready_merge g.status (by decide) _
  case h_14 =>
    refine becomes_of_eq (transfers_congr ((ready_put _ (by decide) _).trans ?_) rfl rfl rfl)
    exact ready_put _ (by decide) _
  all_goals exact becomes_of_eq (transfers_congr rfl rfl rfl rfl)

/-- A word takes an upload two pixels further, or to its end. -/
theorem upload_digest (first : UInt32) (words : List UInt32) (c : VramCursor) :
    (g.digest first words (.upload c)).upload = c.afterWord? := by
  rw [← c.rest?_passed, digest]
  simp only [cursor_place]
  rfl

/-- **What is taken** is a command, a word of an upload or a segment of a polyline. -/
theorem becomes_digest (first : UInt32) (words : List UInt32) {intake : Intake}
    (hintake : g.intake = intake) :
    g.transfers.Becomes (g.digest first words intake).transfers := by
  cases intake with
  | command => exact g.becomes_execute hintake _ _
  | upload cursor =>
    have hupload : g.transfers.upload = some cursor := intake_eq_upload_iff.1 hintake
    have htaken := Transfers.Becomes.takesWord hupload
    rw [← g.upload_digest first words cursor] at htaken
    exact htaken
  | polyline pen =>
    have hpolyline : g.transfers.polyline = some pen := (intake_eq_polyline_iff.1 hintake).2
    rw [digest]
    split
    · exact .takesSegment none hpolyline
    · split
      · exact .stays _
      · exact .takesSegment _ hpolyline

theorem becomes_step : g.transfers.Becomes g.step.2.transfers := by
  rw [← g.transfers_core, ← g.step.2.transfers_core]
  rcases g.core_step_cases with hidle | ⟨first, rest, -, -, htaken⟩
  · rw [hidle]
    exact .stays _
  · rw [htaken]
    exact becomes_digest g.core first _ rfl

theorem becomes_resetRegisters : g.transfers.Becomes g.resetRegisters.transfers := by
  show g.transfers.Becomes ⟨Status.powerOn.has .readyToSend, none, none, none⟩
  rw [ready_powerOn]
  exact .isReset _

/-- A GP1 word gives up everything, or what takes words, or nothing. -/
theorem becomes_control (w : UInt32) : g.transfers.Becomes (g.control w).transfers := by
  unfold control
  split
  case h_1 => exact g.becomes_resetRegisters
  case h_2 => exact .isEmptied _
  case h_3 => exact becomes_of_eq (transfers_congr (ready_put _ (by decide) _) rfl rfl rfl)
  case h_4 => exact becomes_of_eq (transfers_congr (ready_put _ (by decide) _) rfl rfl rfl)
  case h_5 => exact becomes_of_eq (transfers_congr (ready_merge _ (by decide) _) rfl rfl rfl)
  case h_9 => exact becomes_of_eq (transfers_congr (ready_setDisplayMode _ _) rfl rfl rfl)
  case h_11 =>
    split
    · unfold latchInfo
      split <;> exact .stays _
    · exact .stays _
  all_goals exact .stays _

/-- What a read does to a download; what takes words stays. -/
theorem readWord_download {c : VramCursor} (h : g.download = some c) :
    g.readWord.2.download = c.afterWord? ∧ g.readWord.2.upload = g.upload ∧
      g.readWord.2.polyline = g.polyline ∧
      g.readWord.2.status.has .readyToSend =
        (g.status.has .readyToSend && c.afterWord?.isSome) := by
  rw [← c.rest?_passed, readWord, h]
  simp only [cursor_nextPixel]
  generalize c.passed.passed = rest
  rw [VramCursor.rest?]
  split
  · exact ⟨rfl, rfl, rfl, (ready_put_self _ _).trans (Bool.and_false _).symm⟩
  · exact ⟨rfl, rfl, rfl, (Bool.and_true _).symm⟩

theorem becomes_readWord : g.transfers.Becomes g.readWord.2.transfers := by
  cases hdownload : g.download with
  | none =>
    rw [readWord, hdownload]
    exact .stays _
  | some c =>
    obtain ⟨hafter, hupload, hpolyline, hready⟩ := g.readWord_download hdownload
    have hread : g.readWord.2.transfers = { g.transfers with
        ready := g.transfers.ready && c.afterWord?.isSome
        download := c.afterWord? } := by
      unfold transfers
      rw [hafter, hupload, hpolyline, hready]
    rw [hread]
    exact .isRead hdownload

/-- **Whatever is done with a GPU**, one of these things happens to the transfers. -/
theorem becomes_perform (o : Operation) : g.transfers.Becomes (g.perform o).transfers := by
  cases o with
  | queue word => exact .stays _
  | control word => exact g.becomes_control word
  | read => exact g.becomes_readWord
  | step => exact g.becomes_step
  | reset => exact g.becomes_resetRegisters
  | selectStandard standard => exact .stays _
  | attach renderer => exact .stays _
  | poke x y pixel => exact .stays _

end Operations

/-- **In every reachable state the transfers are in order.** -/
theorem Reachable.transfers_inOrder {g : Gpu} (hg : Reachable g) : g.transfers.InOrder := by
  induction hg with
  | powerOn =>
    show Transfers.InOrder ⟨Status.powerOn.has .readyToSend, none, none, none⟩
    rw [ready_powerOn]
    exact .idle
  | @perform g o _ ih => exact ih.becomes (g.becomes_perform o)

/-! ## Their pixels -/

section Pixels

variable {g : Gpu} {c : VramCursor}

/-- **A word of an upload** is written to two pixels, where there is room for them. -/
theorem step_uploadWord (hupload : g.upload = some c) {word : UInt32} {rest : List UInt32}
    (hwaiting : g.fifo.toList = word :: rest) (hroom : c.index + 2 ≤ c.total) :
    g.step.2.vram =
      (g.vram.plot g.maskPolicy (c.coordinate c.index).1 (c.coordinate c.index).2
        word.toUInt16).plot g.maskPolicy (c.coordinate (c.index + 1)).1
        (c.coordinate (c.index + 1)).2 (word >>> 16).toUInt16 ∧
    g.step.2.upload = c.afterWord? := by
  have hintake : g.intake = .upload c := intake_eq_upload_iff.2 hupload
  have hwants : g.intake.appetite word = 1 := by
    rw [hintake]
    rfl
  have hstep := g.core_step_of_complete hwaiting (by rw [hwants]; exact Nat.le_add_left 1 _)
  have hlow := place_of_lt g.maskPolicy (c := c) (n := c.index) word.toUInt16 g.vram (by omega)
  have hhigh := place_of_lt g.maskPolicy (c := c) (n := c.index + 1) (word >>> 16).toUInt16
    (place g.maskPolicy word.toUInt16 c g.vram).2 (by omega)
  have hfirst : (place g.maskPolicy word.toUInt16 c g.vram).1 = c.moveTo (c.index + 1) :=
    congrArg Prod.fst hlow
  have hsecond : (place g.maskPolicy word.toUInt16 c g.vram).2 =
      g.vram.plot g.maskPolicy (c.coordinate c.index).1 (c.coordinate c.index).2 word.toUInt16 :=
    congrArg Prod.snd hlow
  constructor
  · show g.step.2.core.vram = _
    rw [hstep, hintake]
    show (place g.core.maskPolicy _ (place g.core.maskPolicy _ c g.vram).1
      (place g.core.maskPolicy _ c g.vram).2).2 = _
    rw [maskPolicy_core, hfirst, hhigh, hsecond]
  · show g.step.2.core.upload = _
    rw [hstep, hintake]
    exact g.core.upload_digest word [word] c

/-- **A read of a download** returns its next pixel, and the one behind if there is one. -/
theorem readWord_pixels (hdownload : g.download = some c) (hlt : c.index < c.total) :
    g.readWord.1 =
      (g.vram.get (c.coordinate c.index).1 (c.coordinate c.index).2).toUInt32 |||
        ((if c.index + 1 < c.total then
          g.vram.get (c.coordinate (c.index + 1)).1 (c.coordinate (c.index + 1)).2
        else 0).toUInt32 <<< 16) := by
  have hlow : g.nextPixel c =
      (g.vram.get (c.coordinate c.index).1 (c.coordinate c.index).2, c.moveTo (c.index + 1)) :=
    nextPixel_of_lt hlt
  have hhigh : (g.nextPixel (c.moveTo (c.index + 1))).1 =
      if c.index + 1 < c.total then
        g.vram.get (c.coordinate (c.index + 1)).1 (c.coordinate (c.index + 1)).2
      else 0 := by
    by_cases hmore : c.index + 1 < c.total
    · rw [if_pos hmore, nextPixel_of_lt hmore]
    · rw [if_neg hmore, nextPixel, VramCursor.next?_eq]
      have hdone : ¬(c.moveTo (c.index + 1)).index < (c.moveTo (c.index + 1)).total := hmore
      rw [if_neg hdone]
  rw [← hhigh, readWord, hdownload]
  simp only [hlow]
  split <;> rfl

/-- **Transfers in a reachable state** are in order.  So every word of an upload is written to exactly
two pixels, and every read of a download returns at least one; the upload or the download then goes
on behind two pixels, as long as there are more. -/
theorem transfers_reachable (hg : Reachable g) :
    g.transfers.InOrder ∧
    (∀ c word rest, g.upload = some c → g.fifo.toList = word :: rest →
      g.step.2.vram =
        (g.vram.plot g.maskPolicy (c.coordinate c.index).1 (c.coordinate c.index).2
          word.toUInt16).plot g.maskPolicy (c.coordinate (c.index + 1)).1
          (c.coordinate (c.index + 1)).2 (word >>> 16).toUInt16 ∧
      g.step.2.upload = c.afterWord?) ∧
    (∀ c, g.download = some c →
      g.readWord.1 =
        (g.vram.get (c.coordinate c.index).1 (c.coordinate c.index).2).toUInt32 |||
          ((if c.index + 1 < c.total then
            g.vram.get (c.coordinate (c.index + 1)).1 (c.coordinate (c.index + 1)).2
          else 0).toUInt32 <<< 16) ∧
      g.readWord.2.download = c.afterWord?) := by
  have horder := hg.transfers_inOrder
  refine ⟨horder, ?_, ?_⟩
  · intro c word rest hupload hwaiting
    obtain ⟨-, hwidth, hindex, hlt⟩ := horder.upload c hupload
    -- an even number of pixels, of which an even number has passed
    have htotal : c.width * c.height % 2 = 0 := by rw [Nat.mul_mod, hwidth, Nat.zero_mul]
    exact step_uploadWord hupload hwaiting (show c.index + 2 ≤ c.width * c.height by omega)
  · intro c hdownload
    exact ⟨readWord_pixels hdownload (horder.download c hdownload),
      (g.readWord_download hdownload).1⟩

end Pixels

/-- A download of three pixels with an upload beside it, whose left edge and width were odd. -/
theorem transfers_reachable_both :
    let g := Gpu.performAll {} [.queue 0xC0000000, .queue 0x00000000, .queue 0x00010003, .step,
      .queue 0xA0000000, .queue 0x00000003, .queue 0x00010003, .step, .queue 0x22221111]
    g.download = some ⟨0, 0, 3, 1, 0⟩ ∧ g.upload = some ⟨4, 0, 4, 1, 0⟩ ∧
      g.transfers.InOrder ∧
      g.step.2.vram =
        (g.vram.plot g.maskPolicy 4 0 0x1111).plot g.maskPolicy 5 0 0x2222 ∧
      g.readWord.1 = (g.vram.get 0 0).toUInt32 ||| ((g.vram.get 1 0).toUInt32 <<< 16) ∧
      g.readWord.2.download = some ⟨0, 0, 3, 1, 2⟩ := by
  intro g
  have hdownload : g.download = some ⟨0, 0, 3, 1, 0⟩ := by decide +kernel
  have hupload : g.upload = some ⟨4, 0, 4, 1, 0⟩ := by decide +kernel
  have hg : Reachable g := Reachable.performAll .powerOn
  obtain ⟨horder, hword, hread⟩ := transfers_reachable hg
  obtain ⟨hwritten, -⟩ := hword _ 0x22221111 [] hupload (by decide +kernel)
  obtain ⟨hpixels, hafter⟩ := hread _ hdownload
  have htwo : (if (0 : Nat) + 1 < VramCursor.total ⟨0, 0, 3, 1, 0⟩ then g.vram.get 1 0 else 0) =
      g.vram.get 1 0 := if_pos (by decide)
  refine ⟨hdownload, hupload, horder, hwritten, ?_, hafter⟩
  rw [← htwo]
  exact hpixels

end PlayStation.Gpu

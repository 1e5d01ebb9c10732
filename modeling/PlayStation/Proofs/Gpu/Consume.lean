/-
  What the GPU TAKES from its FIFO.

  An upload that is on takes all words; a polyline takes them if there is no upload, and commands
  are what is left (`Gpu.intake`).  The first waiting word and what takes it say how many words the
  GPU wants to have (`Intake.appetite`): all the words of a command, one data word of an upload, the
  words of one segment of a polyline or the one word that ends it.  If so many are waiting, they are
  taken and digested (`Gpu.digest`); if not, nothing happens (`consume_of_cons`).

  So neither the number of words behind those, nor anything else about the FIFO, plays a part:
  digestion goes on beside it (`digest_withFifo`).

  Drawing commands have little to do with the GPU itself: what they can change is said once
  (`Draws`).
-/
import PlayStation.Gpu.Step
import PlayStation.Proofs.Gpu.CommandFifo

namespace PlayStation.Gpu

/-- What the next word in the FIFO is for. -/
inductive Intake where
  /-- It begins a command. -/
  | command
  /-- It holds two pixels of an upload. -/
  | upload (cursor : VramCursor)
  /-- It belongs to a polyline. -/
  | polyline (pen : Pen)
deriving DecidableEq, Repr, Inhabited

/-- What a GPU takes the next word for; an upload comes first. -/
def intake (g : Gpu) : Intake :=
  match g.upload, g.polyline with
  | some cursor, _ => .upload cursor
  | none, some pen => .polyline pen
  | none, none => .command

/-- How many words are taken at a time, when the first of them is `first`. -/
def Intake.appetite (first : UInt32) : Intake → Nat
  | .command => (Command.ofWord first).length
  | .upload _ => 1
  | .polyline pen => if Pen.isTerminator first then 1 else pen.needed

/-- What becomes of the GPU with words that it has taken, `first` in front. -/
def digest (g : Gpu) (first : UInt32) (words : List UInt32) : Intake → Gpu
  | .command => g.execute (Command.ofWord first) words
  | .upload cursor =>
    let (cursor, vram) := place g.maskPolicy first.toUInt16 cursor g.vram
    let (cursor, vram) := place g.maskPolicy (first >>> 16).toUInt16 cursor vram
    { g with vram, upload := if cursor.isDone then none else some cursor }
  | .polyline pen =>
    if Pen.isTerminator first then { g with polyline := none }
    else
      match pen.segment? g.drawingOffset g.drawingArea words with
      | none => g
      | some (line, pen) => ({ g with polyline := some pen }).render (.line line)

/-- The GPU with another FIFO. -/
def withFifo (g : Gpu) (fifo : CommandFifo) : Gpu := { g with fifo }

/-! ## What words are taken for -/

theorem intake_eq_upload_iff {g : Gpu} {cursor : VramCursor} :
    g.intake = .upload cursor ↔ g.upload = some cursor := by
  unfold intake
  cases g.upload with
  | none => cases g.polyline <;> exact iff_of_false nofun nofun
  | some c =>
    constructor
    · rintro ⟨⟩
      rfl
    · rintro ⟨⟩
      rfl

theorem intake_eq_polyline_iff {g : Gpu} {pen : Pen} :
    g.intake = .polyline pen ↔ g.upload = none ∧ g.polyline = some pen := by
  unfold intake
  cases g.upload with
  | none =>
    cases g.polyline with
    | none => exact iff_of_false nofun nofun
    | some p =>
      constructor
      · rintro ⟨⟩
        exact ⟨rfl, rfl⟩
      · rintro ⟨-, ⟨⟩⟩
        rfl
  | some c => exact iff_of_false nofun nofun

/-- Commands are taken when nothing is under way. -/
theorem intake_eq_command_iff {g : Gpu} :
    g.intake = .command ↔ g.upload = none ∧ g.polyline = none := by
  unfold intake
  cases g.upload with
  | none =>
    cases g.polyline with
    | none => exact iff_of_true rfl ⟨rfl, rfl⟩
    | some pen => exact iff_of_false nofun nofun
  | some cursor => exact iff_of_false nofun nofun

/-- What the GPU takes, it takes for its `intake`. -/
theorem consume_eq (g : Gpu) :
    g.consume =
      match g.intake with
      | .command => g.executeNext
      | .upload cursor => g.uploadWord cursor
      | .polyline pen => g.drawSegment pen := by
  unfold consume intake
  cases g.upload with
  | none => cases g.polyline <;> rfl
  | some cursor => rfl

/-! ## Appetites -/

theorem PolygonStyle.length_pos (s : PolygonStyle) : 0 < s.length := by
  unfold PolygonStyle.length
  omega

theorem Command.length_pos (c : Command) : 0 < c.length := by
  cases c with
  | polygon style => exact style.length_pos
  | line style =>
    rw [Command.length, LineStyle.length]
    split
    · decide
    · split <;> decide
  | rectangle style =>
    rw [Command.length, RectangleStyle.length]
    omega
  | _ => decide

/-- The GPU never takes nothing. -/
theorem Intake.appetite_pos (intake : Intake) (first : UInt32) : 0 < intake.appetite first := by
  cases intake with
  | command => exact Command.length_pos _
  | upload cursor => exact Nat.one_pos
  | polyline pen =>
    rw [Intake.appetite, Pen.needed]
    split
    · decide
    · split <;> decide

/-! ## Taking -/

/-- From an empty FIFO nothing is taken. -/
theorem consume_of_nil {g : Gpu} (h : g.fifo.toList = []) : g.consume = g := by
  have hpeek : g.fifo.peek? = none := by rw [CommandFifo.peek?_eq, h]; rfl
  have hpop : g.fifo.pop? = none := by
    have hpop := g.fifo.pop?_eq
    cases hcase : g.fifo.pop? with
    | none => rfl
    | some popped =>
      rw [hcase, h] at hpop
      cases hpop
  rw [consume_eq]
  cases g.intake with
  | command => simp only [executeNext, hpeek]
  | upload cursor => simp only [uploadWord, hpop]
  | polyline pen => simp only [drawSegment, hpeek]

/-- **The GPU takes** as many words as it wants, or none. -/
theorem consume_of_cons {g : Gpu} {first : UInt32} {rest : List UInt32}
    (h : g.fifo.toList = first :: rest) :
    g.consume =
      if g.fifo.size < g.intake.appetite first then g
      else
        (g.withFifo (g.fifo.take (g.intake.appetite first)).2).digest first
          ((first :: rest).take (g.intake.appetite first)) g.intake := by
  have hpeek : g.fifo.peek? = some first := by rw [CommandFifo.peek?_eq, h]; rfl
  have hwords : ∀ n, (first :: rest).take n = (g.fifo.take n).1 := by
    intro n
    rw [(g.fifo.take_eq n).1, h]
  have hone : ¬g.fifo.size < 1 := by
    rw [← g.fifo.length_toList, h, List.length_cons]
    omega
  rw [consume_eq, hwords]
  cases g.intake with
  | command =>
    simp only [executeNext, hpeek]
    rfl
  | upload cursor =>
    have hpop := g.fifo.pop?_eq
    rw [h] at hpop
    cases hcase : g.fifo.pop? with
    | none =>
      rw [hcase] at hpop
      cases hpop
    | some popped =>
      obtain ⟨word, q⟩ := popped
      rw [hcase] at hpop
      obtain ⟨rfl, -⟩ := List.cons.inj hpop
      have htake : g.fifo.take 1 = ([first], q) := by simp only [CommandFifo.take, hcase]
      rw [Intake.appetite, if_neg hone, htake]
      simp only [uploadWord, hcase]
      rfl
  | polyline pen =>
    simp only [drawSegment, hpeek]
    -- the word that lifts the pen is taken alone, whatever the pen needs
    by_cases hterminator : Pen.isTerminator first = true
    · have happetite : (Intake.polyline pen).appetite first = 1 := if_pos hterminator
      rw [if_pos hterminator, happetite, if_neg hone, digest, if_pos hterminator]
      rfl
    · have happetite : (Intake.polyline pen).appetite first = pen.needed := if_neg hterminator
      rw [if_neg hterminator, happetite, digest, if_neg hterminator]
      rfl

/-! ## Beside the FIFO -/

section Beside

variable (g : Gpu) (q : CommandFifo)

theorem drawPolygon_withFifo (style : PolygonStyle) (words : List UInt32) :
    (g.withFifo q).drawPolygon style words = (g.drawPolygon style words).withFifo q := by
  unfold drawPolygon withFifo
  simp only
  cases Polygon.ofWords? style g.drawingOffset g.drawingArea words with
  | none => rfl
  | some polygon =>
    simp only
    cases polygon.texture <;> rfl

theorem drawLine_withFifo (style : LineStyle) (words : List UInt32) :
    (g.withFifo q).drawLine style words = (g.drawLine style words).withFifo q := by
  unfold drawLine withFifo
  simp only
  split
  · cases Pen.ofWords? style g.drawingOffset words <;> rfl
  · cases Line.ofWords? style g.drawingOffset g.drawingArea words <;> rfl

theorem drawRectangle_withFifo (style : RectangleStyle) (words : List UInt32) :
    (g.withFifo q).drawRectangle style words = (g.drawRectangle style words).withFifo q := by
  have hpage : (g.withFifo q).currentPage = g.currentPage := rfl
  rw [drawRectangle, drawRectangle, hpage]
  unfold withFifo
  simp only
  cases Rectangle.ofWords? style g.currentPage g.drawingOffset g.drawingArea words <;> rfl

theorem execute_withFifo (c : Command) (words : List UInt32) :
    (g.withFifo q).execute c words = (g.execute c words).withFifo q := by
  unfold execute
  split
  case h_3 => exact g.drawPolygon_withFifo q _ words
  case h_4 => exact g.drawLine_withFifo q _ words
  case h_5 => exact g.drawRectangle_withFifo q _ words
  all_goals rfl

/-- **Words are digested** beside the FIFO. -/
theorem digest_withFifo (first : UInt32) (words : List UInt32) (intake : Intake) :
    (g.withFifo q).digest first words intake = (g.digest first words intake).withFifo q := by
  cases intake with
  | command => exact g.execute_withFifo q _ words
  | upload cursor => rfl
  | polyline pen =>
    unfold digest withFifo
    simp only
    split
    · rfl
    · cases pen.segment? g.drawingOffset g.drawingArea words <;> rfl

/-- So the FIFO is left alone. -/
theorem fifo_digest (first : UInt32) (words : List UInt32) (intake : Intake) :
    (g.digest first words intake).fifo = g.fifo := by
  have hsame := congrArg Gpu.fifo (g.digest_withFifo g.fifo first words intake)
  exact hsame

end Beside

/-! ## Drawing -/

/-- What a drawing command can do to the GPU: tell the renderer of one primitive, take over the
texture page of a polygon, or put the pen of a polyline down. -/
inductive Draws (g : Gpu) : Gpu → Prop
  | nothing : Draws g g
  | polygon (p : Polygon) : Draws g (g.render (.polygon p))
  | texturedPolygon (page : UInt16) (p : Polygon) :
      Draws g ((g.adoptPage page).render (.polygon p))
  | line (l : Line) : Draws g (g.render (.line l))
  | penDown (pen : Pen) : Draws g { g with polyline := some pen }
  | rectangle (r : Rectangle) : Draws g (g.render (.rectangle r))

section Drawing

variable (g : Gpu) (words : List UInt32)

theorem draws_drawPolygon (style : PolygonStyle) : g.Draws (g.drawPolygon style words) := by
  unfold drawPolygon
  split
  · exact .nothing
  · split
    · exact .polygon _
    · exact .texturedPolygon _ _

theorem draws_drawLine (style : LineStyle) : g.Draws (g.drawLine style words) := by
  unfold drawLine
  split
  · split
    · exact .nothing
    · exact .penDown _
  · split
    · exact .nothing
    · exact .line _

theorem draws_drawRectangle (style : RectangleStyle) :
    g.Draws (g.drawRectangle style words) := by
  unfold drawRectangle
  split
  · exact .nothing
  · exact .rectangle _

end Drawing

end PlayStation.Gpu

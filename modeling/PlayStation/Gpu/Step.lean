/-
  One STEP of the GPU: a system cycle.

  First the beam moves.  Then the GPU takes at most one thing from its FIFO: a data word of an
  upload, a segment of a polyline, or a command, each only if all its words are there.
-/
import PlayStation.Gpu.Execute

namespace PlayStation.Gpu

/-- Moves the beam; at the start of the blank the field changes and the frame is handed over. -/
def advanceBeam (g : Gpu) : Events × Gpu :=
  let (events, beam) := g.beam.advance
  if events.vblank then
    let g :=
      { g with
        beam
        status := g.status.put .interlaceField (!g.status.has .interlaceField) }
    (events, g.render (.endFrame g.frame))
  else (events, { g with beam })

/-- Writes one pixel at a cursor, if it is not at its end. -/
def place (policy : MaskPolicy) (pixel : UInt16) (cursor : VramCursor) (vram : Vram) :
    VramCursor × Vram :=
  match cursor.next? with
  | none => (cursor, vram)
  | some ((x, y), cursor) => (cursor, vram.plot policy x y pixel)

/-- Takes one data word of an upload: two pixels, the low half first. -/
def uploadWord (g : Gpu) (cursor : VramCursor) : Gpu :=
  match g.fifo.pop? with
  | none => g
  | some (word, fifo) =>
    let policy := g.maskPolicy
    let (cursor, vram) := place policy word.toUInt16 cursor g.vram
    let (cursor, vram) := place policy (word >>> 16).toUInt16 cursor vram
    { g with fifo, vram, upload := if cursor.isDone then none else some cursor }

/-- Draws one segment of a polyline, or lifts the pen. -/
def drawSegment (g : Gpu) (pen : Pen) : Gpu :=
  match g.fifo.peek? with
  | none => g
  | some word =>
    if Pen.isTerminator word then { g with fifo := (g.fifo.take 1).2, polyline := none }
    else if g.fifo.size < pen.needed then g
    else
      let (words, fifo) := g.fifo.take pen.needed
      match pen.segment? g.drawingOffset g.drawingArea words with
      | none => { g with fifo }
      | some (line, pen) => ({ g with fifo, polyline := some pen }).render (.line line)

/-- Runs the command at the head of the FIFO, if it is complete. -/
def executeNext (g : Gpu) : Gpu :=
  match g.fifo.peek? with
  | none => g
  | some word =>
    let command := Command.ofWord word
    if g.fifo.size < command.length then g
    else
      let (words, fifo) := g.fifo.take command.length
      ({ g with fifo }).execute command words

/-- Takes from the FIFO what the GPU is ready for. -/
def consume (g : Gpu) : Gpu :=
  match g.upload, g.polyline with
  | some cursor, _ => g.uploadWord cursor
  | none, some pen => g.drawSegment pen
  | none, none => g.executeNext

/-- One system cycle. -/
def step (g : Gpu) : Events × Gpu :=
  let (events, g) := g.advanceBeam
  let g := g.consume
  ({ events with irq := g.interruptRequested }, { g with interruptRequested := false })

end PlayStation.Gpu

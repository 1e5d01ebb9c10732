/-
  The state of the GPU, and what can be read from it.

  GP0 words wait in the FIFO until a step of the GPU takes them: for the data of an upload that is
  on, else for the segments of a polyline that is on, else for commands.  A download runs beside
  them, paced by reads.

  The status word as software sees it is partly stored and partly derived: whether words can be
  taken follows from the FIFO, the DMA request from that and the direction, and the odd line from
  the beam.
-/
import PlayStation.Gpu.CommandFifo
import PlayStation.Gpu.Renderer
import PlayStation.Gpu.Status
import PlayStation.Gpu.Video

namespace PlayStation

namespace Gpu

/-- The part of the video signal that is displayed. -/
structure DisplayRange where
  x1 : Nat := 0x200
  x2 : Nat := 0xC00
  y1 : Nat := 0x010
  y2 : Nat := 0x100
deriving DecidableEq, Repr, Inhabited

end Gpu

open Gpu

/-- The GPU. -/
structure Gpu where
  vram : Vram := .black
  fifo : CommandFifo := .empty
  /-- The stored part of the status word. -/
  status : Status := .powerOn
  /-- A draw-mode word may disable textures. -/
  textureDisableAllowed : Bool := false
  textureWindow : TextureWindow := {}
  drawingArea : DrawingArea := {}
  drawingOffset : Vertex := {}
  /-- Whether textured rectangles are flipped in X and in Y. -/
  rectangleFlip : Bool × Bool := (false, false)
  displayStart : Nat × Nat := (0, 0)
  displayRange : DisplayRange := {}
  /-- The upload that is on. -/
  upload : Option VramCursor := none
  /-- The download that is on. -/
  download : Option VramCursor := none
  /-- The pen of the polyline that is on. -/
  polyline : Option Pen := none
  /-- What a read returns when no download is on. -/
  readLatch : UInt32 := 0
  /-- A command asked for an interrupt that no step has reported yet. -/
  interruptRequested : Bool := false
  renderer : Renderer := .null
  beam : Beam := {}
deriving Inhabited

namespace Gpu

/-! ## Reset -/

/-- What the reset command does: registers as at power-on, nothing queued, nothing under way. -/
def resetRegisters (g : Gpu) : Gpu :=
  { g with
    fifo := g.fifo.clear
    status := .powerOn
    textureWindow := {}
    drawingArea := {}
    drawingOffset := {}
    rectangleFlip := (false, false)
    displayStart := (0, 0)
    displayRange := {}
    upload := none
    download := none
    polyline := none }

/-- What power-on does; renderer and video standard stay. -/
def reset (g : Gpu) : Gpu :=
  { g.resetRegisters with
    vram := .black
    textureDisableAllowed := false
    readLatch := 0
    interruptRequested := false
    beam := { standard := g.beam.standard } }

/-- Switches to a video standard; the beam starts over. -/
def setVideoStandard (g : Gpu) (standard : VideoStandard) : Gpu :=
  { g with beam := g.beam.restart standard }

/-! ## Views -/

/-- An upload is taking words. -/
def isUploading (g : Gpu) : Bool := g.upload.isSome

/-- What drawing does with the mask bit. -/
def maskPolicy (g : Gpu) : MaskPolicy := ⟨g.status.has .setMask, g.status.has .checkMask⟩

/-- The device asks DMA for a word, under the direction in force. -/
def dmaRequest (g : Gpu) : Bool :=
  match g.status.dmaDirection with
  | 0 => false
  | 3 => g.status.has .readyToSend
  | _ => !g.fifo.isFull

/-- The status word as software reads it. -/
def statusWord (g : Gpu) : UInt32 :=
  let accepting := !g.fifo.isFull
  ((((g.status.put .readyForCommand accepting).put .readyForBlock accepting).put
    .dmaRequest g.dmaRequest).put .oddLine g.beam.onOddLine).bits

/-- A copy of what is on display. -/
def frame (g : Gpu) : Frame where
  displayStart := g.displayStart
  width := g.status.displayWidth
  height := g.status.displayHeight
  depth24 := g.status.has .depth24
  number := g.beam.frame
  vram := g.vram

/-- Tells the renderer something. -/
def render (g : Gpu) (call : RenderCall) : Gpu := { g with renderer := g.renderer.receive call }

/-! ## The two sides of the data register -/

/-- Queues a GP0 word. -/
def queue (g : Gpu) (word : UInt32) : Gpu := { g with fifo := (g.fifo.push word).2 }

/-- The pixel under a cursor, zero behind its end, and the cursor one further. -/
def nextPixel (g : Gpu) (cursor : VramCursor) : UInt16 × VramCursor :=
  match cursor.next? with
  | none => (0, cursor)
  | some ((x, y), cursor) => (g.vram.get x y, cursor)

/-- Reads a word: two pixels of a download, or what was latched last. -/
def readWord (g : Gpu) : UInt32 × Gpu :=
  match g.download with
  | none => (g.readLatch, g)
  | some cursor =>
    let (low, cursor) := g.nextPixel cursor
    let (high, cursor) := g.nextPixel cursor
    let word := low.toUInt32 ||| (high.toUInt32 <<< 16)
    if cursor.isDone then
      (word,
        { g with
          download := none
          status := g.status.put .readyToSend false
          readLatch := word })
    else (word, { g with download := some cursor, readLatch := word })

end Gpu

end PlayStation

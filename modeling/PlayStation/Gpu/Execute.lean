/-
  What each GP0 COMMAND does.

  Positions and sizes of rectangles in video memory are packed two to a word, X or width below.
  A size of zero stands for the largest one, except in a fill.
-/
import PlayStation.Gpu.Basic
import PlayStation.Gpu.Command

namespace PlayStation.Gpu

/-! ## Operands -/

/-- The pixel that a position word names. -/
def positionOf (w : UInt32) : Nat × Nat := (Word.field w 0 10, Word.field w 16 9)

/-- A size counted from one up to `limit`; zero stands for `limit`. -/
def extent (raw limit : Nat) : Nat := (raw + limit - 1) % limit + 1

/-- The width and height that a size word names. -/
def sizeOf (w : UInt32) : Nat × Nat :=
  (extent (Word.field w 0 16) 1024, extent (Word.field w 16 16) 512)

/-! ## Drawing settings -/

/-- A draw-mode word: texture page, blending, dither, and how rectangles are flipped. -/
def setDrawMode (g : Gpu) (w : UInt32) : Gpu :=
  { g with
    status :=
      (g.status.setTexpage w).put .textureDisable (g.textureDisableAllowed && Word.bit w 11)
    rectangleFlip := (Word.bit w 12, Word.bit w 13) }

/-- The texture page of a polygon stays in force; dither and drawing to the display are kept. -/
def adoptPage (g : Gpu) (page : UInt16) : Gpu :=
  let status : Status := ⟨Word.merge g.status.bits 0x1FF page.toUInt32⟩
  { g with
    status :=
      if g.textureDisableAllowed then status.put .textureDisable (Word.bit page.toUInt32 11)
      else status }

/-- The texture page in force, as a primitive names it. -/
def currentPage (g : Gpu) : UInt16 :=
  let page := (g.status.bits &&& 0x1FF).toUInt16
  if g.status.has .textureDisable then page ||| 0x800 else page

/-- Whether drawing sets the mask bit, and whether it keeps masked pixels. -/
def setMaskSettings (g : Gpu) (w : UInt32) : Gpu :=
  { g with status := (g.status.put .setMask (Word.bit w 0)).put .checkMask (Word.bit w 1) }

/-- Asks for an interrupt. -/
def requestInterrupt (g : Gpu) : Gpu :=
  { g with status := g.status.put .irq true, interruptRequested := true }

/-! ## Primitives -/

/-- Draws a polygon; its texture page comes into force first. -/
def drawPolygon (g : Gpu) (style : PolygonStyle) (words : List UInt32) : Gpu :=
  match Polygon.ofWords? style g.drawingOffset g.drawingArea words with
  | none => g
  | some polygon =>
    match polygon.texture with
    | none => g.render (.polygon polygon)
    | some texture => (g.adoptPage texture.page).render (.polygon polygon)

/-- Draws a line, or puts the pen of a polyline down. -/
def drawLine (g : Gpu) (style : LineStyle) (words : List UInt32) : Gpu :=
  if style.polyline then
    match Pen.ofWords? style g.drawingOffset words with
    | none => g
    | some pen => { g with polyline := some pen }
  else
    match Line.ofWords? style g.drawingOffset g.drawingArea words with
    | none => g
    | some line => g.render (.line line)

/-- Draws a rectangle with the texture page in force. -/
def drawRectangle (g : Gpu) (style : RectangleStyle) (words : List UInt32) : Gpu :=
  match Rectangle.ofWords? style g.currentPage g.drawingOffset g.drawingArea words with
  | none => g
  | some rectangle => g.render (.rectangle rectangle)

/-! ## Video memory -/

/-- Fills a rectangle whose left edge is rounded down and whose width is rounded up to sixteen. -/
def fillRectangle (g : Gpu) (color position size : UInt32) : Gpu :=
  let pixel := (Color.ofWord color).toPixel
  let x := Word.field position 4 6 * 16
  let y := Word.field position 16 9
  let width := (Word.field size 0 10 + 15) / 16 * 16
  let height := Word.field size 16 9
  { g with vram := g.vram.fill x y width height pixel }

/-- Copies a rectangle within video memory, under the mask settings. -/
def copyRectangle (g : Gpu) (source target size : UInt32) : Gpu :=
  let (sourceX, sourceY) := positionOf source
  let (x, y) := positionOf target
  let (width, height) := sizeOf size
  let policy := g.maskPolicy
  { g with vram := g.vram.copy policy sourceX sourceY x y width height }

/-- Starts an upload; left edge and width are rounded up to even. -/
def startUpload (g : Gpu) (position size : UInt32) : Gpu :=
  let (x, y) := positionOf position
  let (width, height) := sizeOf size
  { g with
    upload :=
      some { x := (x + 1) / 2 * 2 % 1024, y, width := (width + 1) / 2 * 2, height } }

/-- Starts a download. -/
def startDownload (g : Gpu) (position size : UInt32) : Gpu :=
  let (x, y) := positionOf position
  let (width, height) := sizeOf size
  { g with
    download := some { x, y, width, height }
    status := g.status.put .readyToSend true }

/-! ## Dispatch -/

/-- Runs a command whose words are all there. -/
def execute (g : Gpu) : Command → List UInt32 → Gpu
  | .fill, [color, position, size] => g.fillRectangle color position size
  | .interrupt, _ => g.requestInterrupt
  | .polygon style, words => g.drawPolygon style words
  | .line style, words => g.drawLine style words
  | .rectangle style, words => g.drawRectangle style words
  | .copy, [_, source, target, size] => g.copyRectangle source target size
  | .upload, [_, position, size] => g.startUpload position size
  | .download, [_, position, size] => g.startDownload position size
  | .drawMode, [w] => g.setDrawMode w
  | .textureWindow, [w] => { g with textureWindow := .ofWord w }
  | .areaTopLeft, [w] => { g with drawingArea := g.drawingArea.setTopLeft w }
  | .areaBottomRight, [w] => { g with drawingArea := g.drawingArea.setBottomRight w }
  | .drawingOffset, [w] => { g with drawingOffset := .ofOffsetWord w }
  | .maskSettings, [w] => g.setMaskSettings w
  | _, _ => g

end PlayStation.Gpu

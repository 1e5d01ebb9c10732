/-
  GP1: words that act at once, past the FIFO.

    00  reset                      05  start of the displayed area
    01  empty the FIFO             06  horizontal display range
    02  acknowledge interrupt      07  vertical display range
    03  display on or off          08  display mode
    04  DMA direction              09  allow textures to be disabled
                                   10-1F  latch a register for reading
-/
import PlayStation.Gpu.Basic

namespace PlayStation.Gpu

/-- Empties the FIFO; an upload or a polyline under way is given up. -/
def resetIntake (g : Gpu) : Gpu :=
  { g with fifo := g.fifo.clear, upload := none, polyline := none }

/-- Moves the displayed area, and tells the renderer. -/
def setDisplayStart (g : Gpu) (w : UInt32) : Gpu :=
  let x := Word.field w 1 9 * 2
  let y := Word.field w 10 9
  ({ g with displayStart := (x, y) }).render (.displayStart x y)

/-- The register that an index names, in the layout of the command that sets it. -/
def info? (g : Gpu) : Nat → Option UInt32
  | 2 => some g.textureWindow.toWord
  | 3 => some g.drawingArea.topLeftWord
  | 4 => some g.drawingArea.bottomRightWord
  | 5 => some g.drawingOffset.toOffsetWord
  | 7 => some 2
  | _ => none

/-- Latches a register for reading; an index that names none leaves the latch as it is. -/
def latchInfo (g : Gpu) (index : Nat) : Gpu :=
  match g.info? index with
  | none => g
  | some word => { g with readLatch := word }

/-- Obeys a GP1 word. -/
def control (g : Gpu) (w : UInt32) : Gpu :=
  match Word.field w 24 8 with
  | 0x00 => g.resetRegisters
  | 0x01 => g.resetIntake
  | 0x02 => { g with status := g.status.put .irq false }
  | 0x03 => { g with status := g.status.put .displayDisabled (Word.bit w 0) }
  | 0x04 => { g with status := g.status.setDmaDirection w }
  | 0x05 => g.setDisplayStart w
  | 0x06 =>
    { g with
      displayRange := { g.displayRange with x1 := Word.field w 0 12, x2 := Word.field w 12 12 } }
  | 0x07 =>
    { g with
      displayRange := { g.displayRange with y1 := Word.field w 0 10, y2 := Word.field w 10 10 } }
  | 0x08 => { g with status := g.status.setDisplayMode w }
  | 0x09 => { g with textureDisableAllowed := Word.bit w 0 }
  | code => if code / 16 = 1 then g.latchInfo (Word.field w 0 3) else g

end PlayStation.Gpu

/-
  VIDEO TIMING: the beam.

  The beam moves by one system cycle at a time.  A line takes a fixed number of cycles, a frame a
  fixed number of lines, and from one line on the display is blank.
-/

namespace PlayStation.Gpu

/-- The two video standards. -/
inductive VideoStandard where
  | ntsc
  | pal
deriving DecidableEq, Repr, Inhabited

namespace VideoStandard

/-- The number of lines of a frame. -/
def linesPerFrame : VideoStandard → Nat
  | .ntsc => 263
  | .pal => 314

/-- The number of system cycles of a line. -/
def cyclesPerLine : VideoStandard → Nat
  | .ntsc => 2172
  | .pal => 2157

/-- The first blank line. -/
def vblankStart : VideoStandard → Nat
  | .ntsc => 240
  | .pal => 256

end VideoStandard

/-- What one step of the GPU tells the rest of the machine. -/
structure Events where
  /-- The display went blank. -/
  vblank : Bool := false
  /-- A line ended. -/
  hblank : Bool := false
  /-- A command asked for an interrupt. -/
  irq : Bool := false
deriving DecidableEq, Repr, Inhabited

/-- Where the beam is. -/
structure Beam where
  standard : VideoStandard := .ntsc
  line : Nat := 0
  /-- The cycle within the line. -/
  cycle : Nat := 0
  /-- The number of frames that were completed. -/
  frame : Nat := 0
deriving DecidableEq, Repr, Inhabited

namespace Beam

/-- The display is blank. -/
def inVblank (b : Beam) : Bool := b.standard.vblankStart ≤ b.line

/-- The beam draws an odd line. -/
def onOddLine (b : Beam) : Bool := b.line % 2 == 1 && !b.inVblank

/-- The beam at the first line again, under a standard; the frames keep their count. -/
def restart (b : Beam) (standard : VideoStandard) : Beam :=
  { b with standard, line := 0, cycle := 0 }

/-- The start of the next line. -/
def nextLine (b : Beam) : Beam :=
  let line := if b.line + 1 ≥ b.standard.linesPerFrame then 0 else b.line + 1
  { b with
    line
    cycle := 0
    frame := if line = b.standard.vblankStart then b.frame + 1 else b.frame }

/-- One cycle on. -/
def advance (b : Beam) : Events × Beam :=
  if b.cycle + 1 < b.standard.cyclesPerLine then ({}, { b with cycle := b.cycle + 1 })
  else
    let next := b.nextLine
    ({ hblank := true, vblank := next.line == b.standard.vblankStart }, next)

end Beam

end PlayStation.Gpu

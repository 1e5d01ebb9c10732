/-
  VIDEO MEMORY: 1024 by 512 pixels.

  Coordinates wrap in both directions, so every pair of numbers names a pixel.  Bit 15 of a pixel
  is its mask.  Drawing may set it, and may be told to keep pixels that have it.

  Rectangles are walked row by row.  Large ones may be walked a few pixels at a time, with a
  cursor that knows how far it came.
-/
import PlayStation.Table

namespace PlayStation.Gpu

/-- The number of pixels. -/
def vramSize : Nat := 1024 * 512

/-- The pixels, row by row. -/
structure Vram where
  pixels : Table UInt16 vramSize
deriving DecidableEq

namespace Vram

/-- All pixels black. -/
def black : Vram := ⟨Vector.replicate vramSize 0⟩

instance : Inhabited Vram := ⟨black⟩

/-- The place of a pixel. -/
@[inline] def index (x y : Nat) : Fin vramSize :=
  ⟨y % 512 * 1024 + x % 1024, by unfold vramSize; omega⟩

/-- The pixel at wrapped coordinates. -/
@[inline] def get (v : Vram) (x y : Nat) : UInt16 := v.pixels.entry (index x y)

/-- Replaces the pixel at wrapped coordinates. -/
@[inline] def set (v : Vram) (x y : Nat) (pixel : UInt16) : Vram :=
  ⟨v.pixels.put (index x y) pixel⟩

end Vram

/-- What drawing does with the mask bit. -/
structure MaskPolicy where
  /-- Pixels are written with the mask bit set. -/
  force : Bool
  /-- Pixels that have the mask bit are kept. -/
  keep : Bool
deriving DecidableEq, Repr, Inhabited

namespace Vram

/-- Writes a pixel under a mask policy. -/
def plot (v : Vram) (policy : MaskPolicy) (x y : Nat) (pixel : UInt16) : Vram :=
  if policy.keep && v.get x y &&& 0x8000 != 0 then v
  else v.set x y (if policy.force then pixel ||| 0x8000 else pixel)

/-- Goes over the columns of `height` rows of `width` pixels, row by row. -/
@[inline] def walk (v : Vram) (width height : Nat) (visit : Nat → Nat → Vram → Vram) : Vram :=
  height.fold (fun row _ v => width.fold (fun column _ v => visit column row v) v) v

/-- Fills a rectangle, whatever the masks. -/
def fill (v : Vram) (x y width height : Nat) (pixel : UInt16) : Vram :=
  v.walk width height fun column row v => v.set (x + column) (y + row) pixel

/-- Copies a rectangle pixel by pixel, so that an overlap is read as it has become. -/
def copy (v : Vram) (policy : MaskPolicy) (sourceX sourceY x y width height : Nat) : Vram :=
  v.walk width height fun column row v =>
    v.plot policy (x + column) (y + row) (v.get (sourceX + column) (sourceY + row))

end Vram

/-- A walk over a rectangle of video memory, row by row. -/
structure VramCursor where
  x : Nat
  y : Nat
  width : Nat
  height : Nat
  /-- How many pixels the walk has passed. -/
  index : Nat := 0
deriving DecidableEq, Repr, Inhabited

namespace VramCursor

/-- The number of pixels of the rectangle. -/
def total (c : VramCursor) : Nat := c.width * c.height

/-- The number of pixels still ahead. -/
def remaining (c : VramCursor) : Nat := c.total - c.index

def isDone (c : VramCursor) : Bool := c.remaining == 0

/-- The next pixel, and the cursor behind it. -/
def next? (c : VramCursor) : Option ((Nat × Nat) × VramCursor) :=
  if c.isDone then none
  else
    some (((c.x + c.index % c.width) % 1024, (c.y + c.index / c.width) % 512),
      { c with index := c.index + 1 })

end VramCursor

end PlayStation.Gpu

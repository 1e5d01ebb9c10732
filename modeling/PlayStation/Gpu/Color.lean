/-
  COLOURS of command words.

  A command carries eight bits for each of red, green and blue; a pixel in video memory has five
  of them, and bit 15 is the mask.
-/
import PlayStation.Word

namespace PlayStation.Gpu

/-- A colour with eight bits per component. -/
structure Color where
  r : UInt8 := 0
  g : UInt8 := 0
  b : UInt8 := 0
deriving DecidableEq, Repr, Inhabited

namespace Color

/-- The colour in the low 24 bits of a word, red lowest. -/
def ofWord (w : UInt32) : Color :=
  ⟨w.toUInt8, (w >>> 8).toUInt8, (w >>> 16).toUInt8⟩

/-- The pixel of this colour, mask bit clear: the upper five bits of each component. -/
def toPixel (c : Color) : UInt16 :=
  ((c.b >>> 3).toUInt16 <<< 10) ||| ((c.g >>> 3).toUInt16 <<< 5) ||| (c.r >>> 3).toUInt16

end Color

end PlayStation.Gpu

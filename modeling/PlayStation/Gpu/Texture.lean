/-
  TEXTURES: where a primitive's texels come from.

  A textured primitive names a colour look-up table and a texture page.  The texture window, set
  apart from the primitives, repeats a part of the page in steps of eight texels.
-/
import PlayStation.Word

namespace PlayStation.Gpu

/-- A position within the texture page. -/
structure TexCoord where
  u : UInt8 := 0
  v : UInt8 := 0
deriving DecidableEq, Repr, Inhabited

/-- The texel in the low half of a word: U, then V. -/
def TexCoord.ofWord (w : UInt32) : TexCoord := ⟨w.toUInt8, (w >>> 8).toUInt8⟩

/-- The texture of a primitive. -/
structure TextureMapping where
  /-- The look-up table: X in units of 16 in bits 0 to 5, Y above. -/
  clut : UInt16
  /-- The texture page, in the layout of the status word. -/
  page : UInt16
  /-- Texels are drawn as they are, not blended with the colour. -/
  raw : Bool
deriving DecidableEq, Repr, Inhabited

namespace TextureMapping

/-- The X coordinate of the look-up table. -/
def clutX (t : TextureMapping) : Nat := t.clut.toNat % 64 * 16

/-- The Y coordinate of the look-up table. -/
def clutY (t : TextureMapping) : Nat := t.clut.toNat / 64 % 512

end TextureMapping

/-- The texture window; each field has five bits. -/
structure TextureWindow where
  maskX : Nat := 0
  maskY : Nat := 0
  offsetX : Nat := 0
  offsetY : Nat := 0
deriving DecidableEq, Repr, Inhabited

namespace TextureWindow

/-- The four fields of a window word, from bit 0 on. -/
def ofWord (w : UInt32) : TextureWindow :=
  ⟨Word.field w 0 5, Word.field w 5 5, Word.field w 10 5, Word.field w 15 5⟩

/-- The window in the layout of its command. -/
def toWord (t : TextureWindow) : UInt32 :=
  UInt32.ofNat (t.maskX + 32 * t.maskY + 1024 * t.offsetX + 32768 * t.offsetY)

end TextureWindow

end PlayStation.Gpu

/-
  VERTICES and the drawing area.

  A command gives a position as two signed 11-bit numbers.  The drawing offset is added to it with
  wrap-around in 16 bits.  The drawing area is the rectangle that primitives are clipped to.
-/
import PlayStation.Word

namespace PlayStation.Gpu

/-- The eleven bits of `w` from bit `start` on, as a signed number. -/
def signed11 (w : UInt32) (start : Nat) : Int16 :=
  Int16.ofInt (Int.bmod (Word.field w start 11) 2048)

/-- A position, or a displacement. -/
structure Vertex where
  x : Int16 := 0
  y : Int16 := 0
deriving DecidableEq, Repr, Inhabited

namespace Vertex

/-- The position in a vertex word: X from bit 0, Y from bit 16. -/
def ofWord (w : UInt32) : Vertex := ⟨signed11 w 0, signed11 w 16⟩

/-- The displacement in an offset word: X from bit 0, Y from bit 11. -/
def ofOffsetWord (w : UInt32) : Vertex := ⟨signed11 w 0, signed11 w 11⟩

/-- An offset in the layout of an offset word. -/
def toOffsetWord (v : Vertex) : UInt32 :=
  UInt32.ofNat ((v.x.toInt % 2048).toNat + 2048 * (v.y.toInt % 2048).toNat)

/-- The position moved by an offset. -/
def moveBy (v offset : Vertex) : Vertex := ⟨v.x + offset.x, v.y + offset.y⟩

end Vertex

/-- The clipping rectangle, both corners included. -/
structure DrawingArea where
  left : Nat := 0
  top : Nat := 0
  right : Nat := 1023
  bottom : Nat := 511
deriving DecidableEq, Repr, Inhabited

namespace DrawingArea

/-- The area with its first corner taken from a word: X in bits 0 to 9, Y in 10 to 18. -/
def setTopLeft (a : DrawingArea) (w : UInt32) : DrawingArea :=
  { a with left := Word.field w 0 10, top := Word.field w 10 9 }

/-- The area with its last corner taken from a word of the same layout. -/
def setBottomRight (a : DrawingArea) (w : UInt32) : DrawingArea :=
  { a with right := Word.field w 0 10, bottom := Word.field w 10 9 }

/-- The first corner in the layout of its command. -/
def topLeftWord (a : DrawingArea) : UInt32 := UInt32.ofNat (a.left + 1024 * a.top)

/-- The last corner in the layout of its command. -/
def bottomRightWord (a : DrawingArea) : UInt32 := UInt32.ofNat (a.right + 1024 * a.bottom)

end DrawingArea

end PlayStation.Gpu

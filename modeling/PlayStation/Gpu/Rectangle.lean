/-
  RECTANGLES: sprites and solid boxes.

    command word with the colour, position, [texel and look-up table], [size]

  Three sizes are built into the command; with the fourth, the size is the last word.  The texture
  page is not in the command: a rectangle takes the one in force.
-/
import PlayStation.Gpu.Color
import PlayStation.Gpu.Texture
import PlayStation.Gpu.Vertex

namespace PlayStation.Gpu

/-- How a rectangle gets its size. -/
inductive RectangleSize where
  /-- The size is the last word of the command. -/
  | given
  /-- A square with sides of this many pixels. -/
  | square (side : Nat)
deriving DecidableEq, Repr

/-- What the command byte says about a rectangle. -/
structure RectangleStyle where
  size : RectangleSize
  textured : Bool
  semiTransparent : Bool
  raw : Bool
deriving DecidableEq, Repr

namespace RectangleStyle

/-- The style in bits 24 to 28 of a command word. -/
def ofWord (w : UInt32) : RectangleStyle where
  size :=
    match Word.field w 27 2 with
    | 0 => .given
    | 1 => .square 1
    | 2 => .square 8
    | _ => .square 16
  textured := Word.bit w 26
  semiTransparent := Word.bit w 25
  raw := Word.bit w 24

/-- The number of words of the whole command. -/
def length (s : RectangleStyle) : Nat :=
  2 + (if s.textured then 1 else 0) + (if s.size = .given then 1 else 0)

end RectangleStyle

/-- A rectangle ready to be drawn. -/
structure Rectangle where
  position : Vertex
  width : Nat
  height : Nat
  color : Color
  semiTransparent : Bool
  texture : Option TextureMapping
  texcoord : TexCoord
  clip : DrawingArea
deriving DecidableEq, Repr, Inhabited

namespace Rectangle

/-- Width and height of a rectangle: built in, or from a size word. -/
def dimensions : RectangleSize → List UInt32 → Option (Nat × Nat)
  | .square side, _ => some (side, side)
  | .given, size :: _ => some (Word.field size 0 10, Word.field size 16 9)
  | .given, [] => none

/-- Reads the texel word, if the rectangle has one. -/
def readTexture (style : RectangleStyle) (page : UInt16) :
    List UInt32 → Option (Option TextureMapping × TexCoord × List UInt32)
  | words =>
    if style.textured then
      match words with
      | [] => none
      | texel :: rest =>
        some (some ⟨(texel >>> 16).toUInt16, page, style.raw⟩, .ofWord texel, rest)
    else some (none, {}, words)

/-- Reads a whole command, with the texture page in force. -/
def ofWords? (style : RectangleStyle) (page : UInt16) (offset : Vertex) (clip : DrawingArea) :
    List UInt32 → Option Rectangle
  | command :: place :: words => do
    let (texture, texcoord, words) ← readTexture style page words
    let (width, height) ← dimensions style.size words
    some
      { position := (Vertex.ofWord place).moveBy offset
        width
        height
        color := .ofWord command
        semiTransparent := style.semiTransparent
        texture
        texcoord
        clip }
  | _ => none

end Rectangle

end PlayStation.Gpu

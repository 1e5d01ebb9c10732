/-
  POLYGONS: triangles and quads.

  The top byte of the command word says what follows.  A corner is written as

    [colour]  position  [texel]

  where the colour is there with gouraud shading only (the first corner's shares the command
  word) and the texel with a texture only.  The upper half of the first texel's word names the
  colour look-up table, that of the second the texture page.
-/
import PlayStation.Gpu.Color
import PlayStation.Gpu.Texture
import PlayStation.Gpu.Vertex

namespace PlayStation.Gpu

/-- What the command byte says about a polygon. -/
structure PolygonStyle where
  gouraud : Bool
  quad : Bool
  textured : Bool
  semiTransparent : Bool
  raw : Bool
deriving DecidableEq, Repr

namespace PolygonStyle

/-- The style in bits 24 to 28 of a command word. -/
def ofWord (w : UInt32) : PolygonStyle where
  gouraud := Word.bit w 28
  quad := Word.bit w 27
  textured := Word.bit w 26
  semiTransparent := Word.bit w 25
  raw := Word.bit w 24

/-- The number of corners. -/
def corners (s : PolygonStyle) : Nat := if s.quad then 4 else 3

/-- The number of words of the whole command. -/
def length (s : PolygonStyle) : Nat :=
  1 + s.corners * (if s.textured then 2 else 1) + (if s.gouraud then s.corners - 1 else 0)

end PolygonStyle

/-- A corner of a polygon. -/
structure Corner where
  position : Vertex
  color : Color
  texcoord : TexCoord
deriving DecidableEq, Repr, Inhabited

/-- A polygon ready to be drawn. -/
structure Polygon where
  first : Corner
  second : Corner
  third : Corner
  /-- The corner that makes it a quad. -/
  fourth : Option Corner
  gouraud : Bool
  semiTransparent : Bool
  texture : Option TextureMapping
  clip : DrawingArea
deriving DecidableEq, Repr, Inhabited

namespace Polygon

/-- The corners in the order of the command. -/
def corners (p : Polygon) : List Corner := [p.first, p.second, p.third] ++ p.fourth.toList

def isQuad (p : Polygon) : Bool := p.fourth.isSome

/-- A corner as read, with the upper half of its texel word. -/
structure Reading where
  corner : Corner
  upper : UInt16

/-- Reads a position and, with a texture, a texel. -/
def readPlace (textured : Bool) (offset : Vertex) (color : Color) :
    List UInt32 → Option (Reading × List UInt32)
  | [] => none
  | place :: rest =>
    let position := (Vertex.ofWord place).moveBy offset
    if textured then
      match rest with
      | [] => none
      | texel :: rest =>
        some (⟨⟨position, color, .ofWord texel⟩, (texel >>> 16).toUInt16⟩, rest)
    else some (⟨⟨position, color, {}⟩, 0⟩, rest)

/-- Reads a corner after the first one: its colour too, with gouraud shading. -/
def readCorner (style : PolygonStyle) (offset : Vertex) (color : Color) (words : List UInt32) :
    Option (Reading × List UInt32) :=
  if style.gouraud then
    match words with
    | [] => none
    | shade :: rest => readPlace style.textured offset (.ofWord shade) rest
  else readPlace style.textured offset color words

/-- Reads a whole command. -/
def ofWords? (style : PolygonStyle) (offset : Vertex) (clip : DrawingArea) :
    List UInt32 → Option Polygon
  | [] => none
  | command :: words => do
    let color := Color.ofWord command
    let (first, words) ← readPlace style.textured offset color words
    let (second, words) ← readCorner style offset color words
    let (third, words) ← readCorner style offset color words
    let fourth ←
      if style.quad then (readCorner style offset color words).map fun r => some r.1.corner
      else some none
    some
      { first := first.corner
        second := second.corner
        third := third.corner
        fourth
        gouraud := style.gouraud
        semiTransparent := style.semiTransparent
        texture :=
          if style.textured then some ⟨first.upper, second.upper, style.raw⟩ else none
        clip }

end Polygon

end PlayStation.Gpu

/-
  LINES and polylines.

  A line is a command word with the first colour, a position, with gouraud shading a second
  colour, and a second position.  A polyline may be longer than the FIFO, so only its first two
  words are a command.  After them the GPU holds a pen, and every further position (with its
  colour in front of it, under gouraud shading) draws a segment and moves the pen, until a word
  with the terminator pattern lifts it.
-/
import PlayStation.Gpu.Color
import PlayStation.Gpu.Vertex

namespace PlayStation.Gpu

/-- What the command byte says about a line. -/
structure LineStyle where
  gouraud : Bool
  polyline : Bool
  semiTransparent : Bool
deriving DecidableEq, Repr

namespace LineStyle

/-- The style in bits 24 to 28 of a command word. -/
def ofWord (w : UInt32) : LineStyle where
  gouraud := Word.bit w 28
  polyline := Word.bit w 27
  semiTransparent := Word.bit w 25

/-- The number of words of the command; of a polyline, those before the first segment. -/
def length (s : LineStyle) : Nat :=
  if s.polyline then 2 else if s.gouraud then 4 else 3

end LineStyle

/-- A line ready to be drawn. -/
structure Line where
  start : Vertex
  stop : Vertex
  startColor : Color
  stopColor : Color
  semiTransparent : Bool
  clip : DrawingArea
deriving DecidableEq, Repr, Inhabited

/-- Reads the whole command of a single line. -/
def Line.ofWords? (style : LineStyle) (offset : Vertex) (clip : DrawingArea) :
    List UInt32 → Option Line
  | command :: start :: words => do
    let startColor := Color.ofWord command
    let (stopColor, stop) ←
      match style.gouraud, words with
      | true, shade :: stop :: _ => some (Color.ofWord shade, stop)
      | false, stop :: _ => some (startColor, stop)
      | _, _ => none
    some
      { start := (Vertex.ofWord start).moveBy offset
        stop := (Vertex.ofWord stop).moveBy offset
        startColor
        stopColor
        semiTransparent := style.semiTransparent
        clip }
  | _ => none

/-- Where a polyline goes on from. -/
structure Pen where
  gouraud : Bool
  semiTransparent : Bool
  vertex : Vertex
  color : Color
deriving DecidableEq, Repr, Inhabited

namespace Pen

/-- The pen that the first two words of a polyline put down. -/
def ofWords? (style : LineStyle) (offset : Vertex) : List UInt32 → Option Pen
  | command :: start :: _ =>
    some
      { gouraud := style.gouraud
        semiTransparent := style.semiTransparent
        vertex := (Vertex.ofWord start).moveBy offset
        color := .ofWord command }
  | _ => none

/-- The words that end a polyline: 5xxx5xxx. -/
def isTerminator (word : UInt32) : Bool := word &&& 0xF000F000 == 0x50005000

/-- The number of words that the next segment takes. -/
def needed (p : Pen) : Nat := if p.gouraud then 2 else 1

/-- The segment that some words draw, and the pen at its end. -/
def segment? (p : Pen) (offset : Vertex) (clip : DrawingArea) (words : List UInt32) :
    Option (Line × Pen) := do
  let (color, place) ←
    match p.gouraud, words with
    | true, shade :: place :: _ => some (Color.ofWord shade, place)
    | false, place :: _ => some (p.color, place)
    | _, _ => none
  let vertex := (Vertex.ofWord place).moveBy offset
  some
    ({ start := p.vertex
       stop := vertex
       startColor := p.color
       stopColor := color
       semiTransparent := p.semiTransparent
       clip },
      { p with vertex, color })

end Pen

end PlayStation.Gpu

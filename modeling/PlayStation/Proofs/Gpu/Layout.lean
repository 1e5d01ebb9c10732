/-
  How primitives are LAID OUT in GP0 words.

  This is the writer's side of a command.  Somebody who wants a primitive drawn has points, each with
  a place, a colour and a texel, and puts them into words:

    colour     | top     | B       | G       | R       |    8 bits each
    place      | -   | Y           | -   | X           |    11 bits each, signed
    texel      | upper half        | V       | U       |
    size       | height            | width             |    16 bits each

  The top byte of the first colour word says what the command is.  The upper halves of the first two
  texel words of a polygon name the look-up table and the texture page, and that of a rectangle the
  look-up table.  What else is in these words may be anything, and is part of the data here: the top
  bytes of the other colours, the upper halves of the other texel words, the five bits above each
  coordinate, and two bits in the command byte of a line.

  Word by word, what the GPU reads is what was written (`Place.ofWord_word`, `Color.ofWord_word`,
  `TexCoord.ofWord_word`).
-/
import Mathlib.Algebra.GroupWithZero.Nat
import PlayStation.Proofs.Bits
import PlayStation.Gpu.Command

namespace PlayStation.Gpu

/-! ## Words -/

/-- A place that a position word can name, and what stands above its two coordinates. -/
structure Place where
  x : Int
  y : Int
  x_bounds : -1024 ≤ x ∧ x < 1024
  y_bounds : -1024 ≤ y ∧ y < 1024
  aboveX : Fin 32 := 0
  aboveY : Fin 32 := 0

namespace Place

/-- Its position word. -/
def word (p : Place) : UInt32 :=
  UInt32.ofNat ((p.x % 2048).toNat + 0x800 * p.aboveX + 0x10000 * (p.y % 2048).toNat +
    0x8000000 * p.aboveY)

/-- The vertex at the place. -/
def vertex (p : Place) : Vertex := ⟨Int16.ofInt p.x, Int16.ofInt p.y⟩

end Place

/-- A colour word with something in its top byte. -/
def Color.word (c : Color) (top : UInt8) : UInt32 :=
  UInt32.ofNat (c.r.toNat + 0x100 * c.g.toNat + 0x10000 * c.b.toNat + 0x1000000 * top.toNat)

/-- A texel word with something in its upper half. -/
def TexCoord.word (t : TexCoord) (upper : UInt16) : UInt32 :=
  UInt32.ofNat (t.u.toNat + 0x100 * t.v.toNat + 0x10000 * upper.toNat)

/-- The size word of a rectangle. -/
def sizeWord (width height : UInt16) : UInt32 :=
  UInt32.ofNat (width.toNat + 0x10000 * height.toNat)

/-! ## Command bytes -/

/-- The command byte of a polygon. -/
def PolygonStyle.code (s : PolygonStyle) : UInt8 :=
  UInt8.ofNat (0x20 + 0x10 * s.gouraud.toNat + 0x08 * s.quad.toNat + 0x04 * s.textured.toNat +
    0x02 * s.semiTransparent.toNat + s.raw.toNat)

/-- The command byte of a line, with the two bits that mean nothing. -/
def LineStyle.code (s : LineStyle) (spare : Bool × Bool) : UInt8 :=
  UInt8.ofNat (0x40 + 0x10 * s.gouraud.toNat + 0x08 * s.polyline.toNat + 0x04 * spare.1.toNat +
    0x02 * s.semiTransparent.toNat + spare.2.toNat)

/-- The size bits of a rectangle. -/
def RectangleSize.code : RectangleSize → Nat
  | .given => 0
  | .square 1 => 1
  | .square 8 => 2
  | .square _ => 3

/-- The command byte of a rectangle. -/
def RectangleStyle.code (s : RectangleStyle) : UInt8 :=
  UInt8.ofNat (0x60 + 0x08 * s.size.code + 0x04 * s.textured.toNat +
    0x02 * s.semiTransparent.toNat + s.raw.toNat)

/-! ## Primitives -/

/-- A point as it is written: a place, a colour with something above it, and a texel with something
above it. -/
structure Point where
  place : Place
  color : Color := {}
  top : UInt8 := 0
  texel : TexCoord := {}
  upper : UInt16 := 0

namespace Point

/-- The words of a point without its colour. -/
def placeWords (p : Point) (textured : Bool) : List UInt32 :=
  p.place.word :: if textured then [p.texel.word p.upper] else []

/-- The words of a point whose colour is not in the command word. -/
def words (p : Point) (gouraud textured : Bool) : List UInt32 :=
  (if gouraud then [p.color.word p.top] else []) ++ p.placeWords textured

/-- Where the point is drawn. -/
def vertex (p : Point) (offset : Vertex) : Vertex :=
  ⟨Int16.ofInt p.place.x + offset.x, Int16.ofInt p.place.y + offset.y⟩

/-- The corner that it is of a polygon. -/
def corner (p : Point) (color : Color) (textured : Bool) (offset : Vertex) : Corner :=
  ⟨p.vertex offset, color, if textured then p.texel else {}⟩

end Point

/-- A polygon as it is written. -/
structure PolygonDraft where
  first : Point
  second : Point
  third : Point
  fourth : Option Point
  gouraud : Bool
  textured : Bool
  semiTransparent : Bool
  raw : Bool

namespace PolygonDraft

variable (d : PolygonDraft)

def style : PolygonStyle where
  gouraud := d.gouraud
  quad := d.fourth.isSome
  textured := d.textured
  semiTransparent := d.semiTransparent
  raw := d.raw

/-- Its words behind the command word. -/
def operands : List UInt32 :=
  d.first.placeWords d.textured ++ (d.second.words d.gouraud d.textured ++
    (d.third.words d.gouraud d.textured ++
      (d.fourth.map (·.words d.gouraud d.textured)).getD []))

/-- The colour at a point: its own with gouraud shading, and else that of the command word. -/
def shade (p : Point) : Color := if d.gouraud then p.color else d.first.color

/-- The polygon that it is. -/
def polygon (offset : Vertex) (clip : DrawingArea) : Polygon where
  first := d.first.corner d.first.color d.textured offset
  second := d.second.corner (d.shade d.second) d.textured offset
  third := d.third.corner (d.shade d.third) d.textured offset
  fourth := d.fourth.map fun p => p.corner (d.shade p) d.textured offset
  gouraud := d.gouraud
  semiTransparent := d.semiTransparent
  texture := if d.textured then some ⟨d.first.upper, d.second.upper, d.raw⟩ else none
  clip

end PolygonDraft

/-- A line as it is written. -/
structure LineDraft where
  start : Point
  stop : Point
  gouraud : Bool
  semiTransparent : Bool
  spare : Bool × Bool := (false, false)

namespace LineDraft

variable (d : LineDraft)

def style : LineStyle where
  gouraud := d.gouraud
  polyline := false
  semiTransparent := d.semiTransparent

def operands : List UInt32 := d.start.placeWords false ++ d.stop.words d.gouraud false

/-- The line that it is. -/
def line (offset : Vertex) (clip : DrawingArea) : Line where
  start := d.start.vertex offset
  stop := d.stop.vertex offset
  startColor := d.start.color
  stopColor := if d.gouraud then d.stop.color else d.start.color
  semiTransparent := d.semiTransparent
  clip

end LineDraft

/-- The size of a rectangle as it is written: in a word of its own or in the command byte. -/
inductive SizeDraft where
  | given (width height : UInt16)
  | one
  | eight
  | sixteen

namespace SizeDraft

def size : SizeDraft → RectangleSize
  | .given _ _ => .given
  | .one => .square 1
  | .eight => .square 8
  | .sixteen => .square 16

def words : SizeDraft → List UInt32
  | .given width height => [sizeWord width height]
  | .one | .eight | .sixteen => []

/-- Width and height in pixels. -/
def dimensions : SizeDraft → Nat × Nat
  | .given width height => (width.toNat % 1024, height.toNat % 512)
  | .one => (1, 1)
  | .eight => (8, 8)
  | .sixteen => (16, 16)

end SizeDraft

/-- A rectangle as it is written. -/
structure RectangleDraft where
  corner : Point
  size : SizeDraft
  textured : Bool
  semiTransparent : Bool
  raw : Bool

namespace RectangleDraft

variable (d : RectangleDraft)

def style : RectangleStyle where
  size := d.size.size
  textured := d.textured
  semiTransparent := d.semiTransparent
  raw := d.raw

def operands : List UInt32 := d.corner.placeWords d.textured ++ d.size.words

/-- The rectangle that it is, with a texture page. -/
def rectangle (page : UInt16) (offset : Vertex) (clip : DrawingArea) : Rectangle where
  position := d.corner.vertex offset
  width := d.size.dimensions.1
  height := d.size.dimensions.2
  color := d.corner.color
  semiTransparent := d.semiTransparent
  texture := if d.textured then some ⟨d.corner.upper, page, d.raw⟩ else none
  texcoord := if d.textured then d.corner.texel else {}
  clip

end RectangleDraft

/-! ## Reading them -/

/-- What is written as a number is that number, if a word has room for it. -/
theorem toNat_ofNat_of_fits {n : Nat} (h : n < 0x100000000) : (UInt32.ofNat n).toNat = n :=
  UInt32.toNat_ofNat_of_lt' h

/-- A field, as a quotient and a remainder. -/
theorem field_eq (w : UInt32) (start width : Nat) :
    Word.field w start width = w.toNat / 2 ^ start % 2 ^ width := by
  rw [Word.field, Nat.shiftRight_eq_div_pow, Nat.one_shiftLeft]

/-- A signed number of eleven bits is read back from its remainder. -/
theorem bmod_toNat_emod {x : Int} (h : -1024 ≤ x ∧ x < 1024) :
    Int.bmod ((x % 2048).toNat : Int) 2048 = x := by
  rw [Int.toNat_of_nonneg (Int.emod_nonneg x (by decide)), Int.bmod_def]
  split <;> omega

theorem Place.ofWord_word (p : Place) : Vertex.ofWord p.word = p.vertex := by
  have hx : (p.x % 2048).toNat < 2048 := by omega
  have hy : (p.y % 2048).toNat < 2048 := by omega
  have haboveX := p.aboveX.isLt
  have haboveY := p.aboveY.isLt
  have hword : p.word.toNat = (p.x % 2048).toNat + 0x800 * p.aboveX +
      0x10000 * (p.y % 2048).toNat + 0x8000000 * p.aboveY := toNat_ofNat_of_fits (by omega)
  have hlow : Word.field p.word 0 11 = (p.x % 2048).toNat := by
    rw [field_eq, hword]
    omega
  have hhigh : Word.field p.word 16 11 = (p.y % 2048).toNat := by
    rw [field_eq, hword]
    omega
  have hleft : signed11 p.word 0 = Int16.ofInt p.x :=
    congrArg Int16.ofInt (hlow ▸ bmod_toNat_emod p.x_bounds)
  have hright : signed11 p.word 16 = Int16.ofInt p.y :=
    congrArg Int16.ofInt (hhigh ▸ bmod_toNat_emod p.y_bounds)
  rw [Vertex.ofWord, hleft, hright, vertex]

/-- A byte of a word, as a quotient and a remainder. -/
theorem toNat_byte (w : UInt32) {start : UInt32} (h : start.toNat < 32) :
    (w >>> start).toUInt8.toNat = w.toNat / 2 ^ start.toNat % 256 := by
  rw [UInt32.toNat_toUInt8, UInt32.toNat_shiftRight, Nat.mod_eq_of_lt h,
    Nat.shiftRight_eq_div_pow]

theorem Color.toNat_word (c : Color) (top : UInt8) :
    (c.word top).toNat =
      c.r.toNat + 0x100 * c.g.toNat + 0x10000 * c.b.toNat + 0x1000000 * top.toNat := by
  have hr := c.r.toNat_lt
  have hg := c.g.toNat_lt
  have hb := c.b.toNat_lt
  have htop := top.toNat_lt
  exact toNat_ofNat_of_fits (by omega)

theorem Color.ofWord_word (c : Color) (top : UInt8) : Color.ofWord (c.word top) = c := by
  have hr := c.r.toNat_lt
  have hg := c.g.toNat_lt
  have hb := c.b.toNat_lt
  have hred : (c.word top).toUInt8 = c.r := by
    apply UInt8.toNat_inj.1
    rw [UInt32.toNat_toUInt8, toNat_word]
    omega
  have hgreen : (c.word top >>> 8).toUInt8 = c.g := by
    apply UInt8.toNat_inj.1
    rw [toNat_byte _ (by decide), toNat_word]
    show _ / 256 % 256 = _
    omega
  have hblue : (c.word top >>> 16).toUInt8 = c.b := by
    apply UInt8.toNat_inj.1
    rw [toNat_byte _ (by decide), toNat_word]
    show _ / 65536 % 256 = _
    omega
  rw [ofWord, hred, hgreen, hblue]

/-- The top byte of a colour word. -/
theorem Color.word_shiftRight (c : Color) (top : UInt8) : c.word top >>> 24 = top.toUInt32 := by
  have hr := c.r.toNat_lt
  have hg := c.g.toNat_lt
  have hb := c.b.toNat_lt
  apply UInt32.toNat_inj.1
  rw [UInt32.toNat_shiftRight, UInt8.toNat_toUInt32, toNat_word]
  show _ >>> 24 = _
  rw [Nat.shiftRight_eq_div_pow]
  omega

theorem TexCoord.toNat_word (t : TexCoord) (upper : UInt16) :
    (t.word upper).toNat = t.u.toNat + 0x100 * t.v.toNat + 0x10000 * upper.toNat := by
  have hu := t.u.toNat_lt
  have hv := t.v.toNat_lt
  have hupper := upper.toNat_lt
  exact toNat_ofNat_of_fits (by omega)

theorem TexCoord.ofWord_word (t : TexCoord) (upper : UInt16) :
    TexCoord.ofWord (t.word upper) = t := by
  have hu := t.u.toNat_lt
  have hv := t.v.toNat_lt
  have hlow : (t.word upper).toUInt8 = t.u := by
    apply UInt8.toNat_inj.1
    rw [UInt32.toNat_toUInt8, toNat_word]
    omega
  have hhigh : (t.word upper >>> 8).toUInt8 = t.v := by
    apply UInt8.toNat_inj.1
    rw [toNat_byte _ (by decide), toNat_word]
    show _ / 256 % 256 = _
    omega
  rw [ofWord, hlow, hhigh]

/-- The upper half of a texel word. -/
theorem TexCoord.word_upper (t : TexCoord) (upper : UInt16) :
    (t.word upper >>> 16).toUInt16 = upper := by
  have hu := t.u.toNat_lt
  have hv := t.v.toNat_lt
  have hupper := upper.toNat_lt
  apply UInt16.toNat_inj.1
  rw [UInt32.toNat_toUInt16, UInt32.toNat_shiftRight, toNat_word]
  show _ >>> 16 % 65536 = _
  rw [Nat.shiftRight_eq_div_pow]
  omega

/-- Ten bits of the width and nine of the height are read. -/
theorem field_sizeWord (width height : UInt16) :
    Word.field (sizeWord width height) 0 10 = width.toNat % 1024 ∧
    Word.field (sizeWord width height) 16 9 = height.toNat % 512 := by
  have hwidth := width.toNat_lt
  have hheight := height.toNat_lt
  have hword : (sizeWord width height).toNat = width.toNat + 0x10000 * height.toNat :=
    toNat_ofNat_of_fits (by omega)
  rw [field_eq, field_eq, hword]
  omega

end PlayStation.Gpu

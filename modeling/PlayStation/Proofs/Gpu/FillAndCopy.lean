/-
  FILL and COPY, the two commands that write to video memory by themselves.

  Either goes over the rows and columns of a rectangle, around the edges of video memory.  A fill
  writes one colour and asks nobody.  A copy writes what another rectangle shows, under the mask
  settings; and it reads from the memory that it writes to, so what it reads is what was there only
  as long as the two rectangles are apart.

  1. **One loop** (`walk_eq`): rows and columns are the numbers of the pixels, in order.

  2. **Written like data** (`fold_eq_placeAll`): a loop that plots one pixel for each number does what
     an upload of these pixels does.  A fill is an upload of its colour without mask settings
     (`fill_eq_placeAll`), and a copy one of the pixels of its source (`copy_eq_placeAll`): these are
     still there when they are read, since nothing has been written but to the target.  So what is
     known of uploads is true of both.

  3. **The commands** (`step_fillOrCopy`), from their words.
-/
import PlayStation.Proofs.Gpu.Core
import PlayStation.Proofs.Gpu.Cursor
import PlayStation.Proofs.Gpu.Layout

namespace PlayStation.Gpu

/-! ## Rectangles -/

namespace VramCursor

/-- The rectangle has the pixel at these coordinates. -/
def Covers (c : VramCursor) (x y : Nat) : Prop :=
  ∃ column < c.width, ∃ row < c.height,
    (c.x + column) % 1024 = x % 1024 ∧ (c.y + row) % 512 = y % 512

/-- The pixels of a rectangle, row by row. -/
def pixels (c : VramCursor) (v : Vram) : List UInt16 :=
  (List.range c.total).map fun k => v.get (c.coordinate k).1 (c.coordinate k).2

variable {c : VramCursor}

/-- The number of a pixel, by its row and column. -/
theorem number_eq {width column : Nat} (h : column < width) (row : Nat) :
    (row * width + column) % width = column ∧ (row * width + column) / width = row := by
  have hpos : 0 < width := Nat.zero_lt_of_lt h
  constructor
  · rw [Nat.mul_comm, Nat.mul_add_mod, Nat.mod_eq_of_lt h]
  · rw [Nat.mul_comm, Nat.mul_add_div hpos, Nat.div_eq_of_lt h, Nat.add_zero]

theorem number_lt {column row : Nat} (hcolumn : column < c.width) (hrow : row < c.height) :
    row * c.width + column < c.total :=
  calc row * c.width + column
    _ < row * c.width + c.width := Nat.add_lt_add_left hcolumn _
    _ = (row + 1) * c.width := (Nat.succ_mul _ _).symm
    _ ≤ c.height * c.width := Nat.mul_le_mul_right _ hrow
    _ = c.total := Nat.mul_comm _ _

theorem coordinate_number {column : Nat} (h : column < c.width) (row : Nat) :
    c.coordinate (row * c.width + column) = ((c.x + column) % 1024, (c.y + row) % 512) := by
  obtain ⟨hmod, hdiv⟩ := number_eq h row
  rw [coordinate, hmod, hdiv]

theorem covers_iff {x y : Nat} :
    c.Covers x y ↔ ∃ k < c.total, c.coordinate k = (x % 1024, y % 512) := by
  constructor
  · rintro ⟨column, hcolumn, row, hrow, hx, hy⟩
    refine ⟨row * c.width + column, number_lt hcolumn hrow, ?_⟩
    rw [coordinate_number hcolumn, hx, hy]
  · rintro ⟨k, hk, hplace⟩
    obtain ⟨hx, hy⟩ := Prod.mk.inj hplace
    have hpos : 0 < c.width := Nat.pos_of_mul_pos_right (Nat.zero_lt_of_lt hk)
    exact ⟨k % c.width, Nat.mod_lt _ hpos, k / c.width, Nat.div_lt_of_lt_mul hk, hx, hy⟩

end VramCursor

/-! ## One loop -/

namespace Vram

/-- **One loop**: rows and columns are the numbers of the pixels, in order. -/
theorem walk_eq (v : Vram) (width height : Nat) (visit : Nat → Nat → Vram → Vram) :
    v.walk width height visit =
      (height * width).fold (fun k _ v => visit (k % width) (k / width) v) v := by
  induction height with
  | zero => exact (Nat.fold_congr (Nat.zero_mul width) _ v).symm
  | succ height ih =>
    have hrow : (fun (column : Nat) (_ : column < width) (v : Vram) => visit column height v) =
        fun (column : Nat) (_ : column < width) (v : Vram) =>
          visit ((height * width + column) % width) ((height * width + column) / width) v := by
      funext column hcolumn v
      obtain ⟨hmod, hdiv⟩ := VramCursor.number_eq hcolumn height
      rw [hmod, hdiv]
    unfold walk at ih ⊢
    rw [Nat.fold_succ, ih, hrow, Nat.fold_congr (Nat.succ_mul height width), Nat.fold_add]

/-- Where the pixels of a rectangle are plotted. -/
theorem plot_coordinate (v : Vram) (policy : MaskPolicy) (c : VramCursor) (k : Nat)
    (pixel : UInt16) :
    v.plot policy (c.coordinate k).1 (c.coordinate k).2 pixel =
      v.plot policy (c.x + k % c.width) (c.y + k / c.width) pixel := by
  have hplace : index (c.coordinate k).1 (c.coordinate k).2 =
      index (c.x + k % c.width) (c.y + k / c.width) :=
    index_eq_iff.2 ⟨Nat.mod_mod _ _, Nat.mod_mod _ _⟩
  rw [plot, plot, get, get, set, set, hplace]

/-- Video memories with the same pixels are the same. -/
theorem ext_get {v w : Vram} (h : ∀ x y, v.get x y = w.get x y) : v = w := by
  refine congrArg Vram.mk (Table.ext_entry fun i => ?_)
  have hplace : index (i.val % 1024) (i.val / 1024) = i := by
    have hlt : i.val < 1024 * 512 := i.isLt
    refine Fin.ext ?_
    show i.val / 1024 % 512 * 1024 + i.val % 1024 % 1024 = i.val
    omega
  have hsame := h (i.val % 1024) (i.val / 1024)
  rwa [get, get, hplace] at hsame

theorem get_coordinate (v : Vram) (c : VramCursor) (k : Nat) :
    v.get (c.coordinate k).1 (c.coordinate k).2 =
      v.get (c.x + k % c.width) (c.y + k / c.width) :=
  v.get_congr (Nat.mod_mod _ _) (Nat.mod_mod _ _)

end Vram

/-! ## Written like data -/

section Written

variable {policy : MaskPolicy} {c : VramCursor} {v : Vram}

/-- One more pixel. -/
theorem placeAll_range_succ (pixel : Nat → UInt16) {n : Nat} (hn : n < c.total) :
    (placeAll policy ((List.range (n + 1)).map pixel) (c.moveTo 0) v).2 =
      (placeAll policy ((List.range n).map pixel) (c.moveTo 0) v).2.plot policy
        (c.coordinate n).1 (c.coordinate n).2 (pixel n) := by
  have hlength : ((List.range n).map pixel).length = n := by rw [List.length_map, List.length_range]
  have hcursor := cursor_placeAll policy (c := c) ((List.range n).map pixel) 0 v (by omega)
  rw [hlength, Nat.zero_add] at hcursor
  rw [List.range_succ, List.map_append, placeAll_append, hcursor]
  show (place policy (pixel n) (c.moveTo n) _).2 = _
  rw [place_of_lt policy _ _ hn]

/-- **A loop that plots one pixel for each number** does what an upload of these pixels does. -/
theorem fold_eq_placeAll (pixel : Nat → UInt16) (visit : Nat → Vram → Vram)
    (hvisit : ∀ k < c.total,
      visit k (placeAll policy ((List.range k).map pixel) (c.moveTo 0) v).2 =
        (placeAll policy ((List.range k).map pixel) (c.moveTo 0) v).2.plot policy
          (c.coordinate k).1 (c.coordinate k).2 (pixel k)) (n : Nat) (hn : n ≤ c.total) :
    n.fold (fun k _ v => visit k v) v =
      (placeAll policy ((List.range n).map pixel) (c.moveTo 0) v).2 := by
  induction n with
  | zero => rfl
  | succ n ih =>
    rw [Nat.fold_succ, ih (Nat.le_of_succ_le hn), hvisit n hn, placeAll_range_succ pixel hn]

/-- **A fill** is an upload of its colour without mask settings. -/
theorem fill_eq_placeAll (c : VramCursor) (v : Vram) (pixel : UInt16) :
    v.fill c.x c.y c.width c.height pixel =
      (placeAll ⟨false, false⟩ ((List.range c.total).map fun _ => pixel) (c.moveTo 0) v).2 := by
  have htotal : c.height * c.width = c.total := Nat.mul_comm _ _
  rw [Vram.fill, Vram.walk_eq, htotal]
  refine fold_eq_placeAll (fun _ => pixel)
    (fun k v => v.set (c.x + k % c.width) (c.y + k / c.width) pixel) (fun k _ => ?_) _
    (Nat.le_refl _)
  rw [Vram.plot_coordinate]
  rfl

/-- Two rectangles have no pixel in common. -/
def Apart (c d : VramCursor) : Prop := ∀ x y, ¬(c.Covers x y ∧ d.Covers x y)

/-- **A copy** between rectangles that are apart is an upload of the pixels of its source. -/
theorem copy_eq_placeAll {source target : VramCursor} (hapart : Apart source target)
    (hwidth : source.width = target.width) (hheight : source.height = target.height) (v : Vram) :
    v.copy policy source.x source.y target.x target.y target.width target.height =
      (placeAll policy (source.pixels v) (target.moveTo 0) v).2 := by
  have htotal : target.height * target.width = source.total := by
    rw [← hwidth, ← hheight]
    exact Nat.mul_comm _ _
  have htotal' : source.total = target.total := by
    rw [← htotal]
    exact Nat.mul_comm _ _
  rw [Vram.copy, Vram.walk_eq, htotal, VramCursor.pixels]
  refine fold_eq_placeAll (fun k => v.get (source.coordinate k).1 (source.coordinate k).2)
    (fun k v => v.plot policy (target.x + k % target.width) (target.y + k / target.width)
      (v.get (source.x + k % target.width) (source.y + k / target.width)))
    (fun k hk => ?_) _ (Nat.le_of_eq htotal')
  have hlength : ∀ pixel : Nat → UInt16, ((List.range k).map pixel).length = k := by
    intro pixel
    rw [List.length_map, List.length_range]
  -- the source is still what it was
  have hsource := get_placeAll_of_ne policy (c := target) (x := (source.coordinate k).1)
    (y := (source.coordinate k).2)
    ((List.range k).map fun k => v.get (source.coordinate k).1 (source.coordinate k).2) 0 v
    (by rw [hlength]; omega) (fun l _ hl hsame => by
      rw [hlength] at hl
      refine hapart (source.coordinate k).1 (source.coordinate k).2 ⟨?_, ?_⟩
      · exact VramCursor.covers_iff.2 ⟨k, by omega, (source.coordinate_wrapped k).symm⟩
      · exact VramCursor.covers_iff.2 ⟨l, by omega, hsame⟩)
  rw [Vram.plot_coordinate, ← hsource, ← hwidth, Vram.get_coordinate]

end Written

/-! ## What is written -/

/-- One pixel all over a rectangle, and nothing else, has been written to video memory. -/
structure Filled (area : VramCursor) (pixel : UInt16) (before after : Vram) : Prop where
  inside : ∀ x y, area.Covers x y → after.get x y = pixel
  outside : ∀ x y, ¬area.Covers x y → after.get x y = before.get x y

/-- Each pixel of a rectangle, and no other, has been offered the one of another rectangle in its
row and column, under a mask policy. -/
structure Copied (policy : MaskPolicy) (source target : VramCursor) (before after : Vram) : Prop where
  inside : ∀ column < target.width, ∀ row < target.height,
    after.get (target.x + column) (target.y + row) =
      policy.over (before.get (target.x + column) (target.y + row))
        (before.get (source.x + column) (source.y + row))
  outside : ∀ x y, ¬target.Covers x y → after.get x y = before.get x y

/-- Pixels outside of the rectangle stay, whatever is placed in it. -/
theorem get_placeAll_outside (policy : MaskPolicy) {c : VramCursor} {pixels : List UInt16}
    (hlength : pixels.length ≤ c.total) (v : Vram) {x y : Nat} (h : ¬c.Covers x y) :
    (placeAll policy pixels (c.moveTo 0) v).2.get x y = v.get x y :=
  get_placeAll_of_ne policy pixels 0 v (by omega) fun k _ hk hsame =>
    h (VramCursor.covers_iff.2 ⟨k, by omega, hsame⟩)

theorem filled_fill {area : VramCursor} (hwidth : area.width ≤ 1024) (hheight : area.height ≤ 512)
    (pixel : UInt16) (v : Vram) :
    Filled area pixel v (v.fill area.x area.y area.width area.height pixel) := by
  have hlength : ((List.range area.total).map fun _ => pixel).length = area.total := by
    rw [List.length_map, List.length_range]
  rw [fill_eq_placeAll]
  constructor
  · intro x y hcovers
    obtain ⟨k, hk, hplace⟩ := VramCursor.covers_iff.1 hcovers
    have hpixel := get_placeAll ⟨false, false⟩ hwidth hheight
      ((List.range area.total).map fun _ => pixel) 0 v (by omega) k (by omega)
      (by rwa [Nat.zero_add])
    rw [hpixel, List.getElem_map]
    rfl
  · intro x y hcovers
    exact get_placeAll_outside _ (Nat.le_of_eq hlength) v hcovers

theorem copied_copy {policy : MaskPolicy} {source target : VramCursor}
    (hapart : Apart source target) (hwidth : source.width = target.width)
    (hheight : source.height = target.height) (hwidth' : target.width ≤ 1024)
    (hheight' : target.height ≤ 512) (v : Vram) :
    Copied policy source target v
      (v.copy policy source.x source.y target.x target.y target.width target.height) := by
  have htotal : source.total = target.total := by
    rw [VramCursor.total, VramCursor.total, hwidth, hheight]
  have hlength : (source.pixels v).length = target.total := by
    rw [VramCursor.pixels, List.length_map, List.length_range, htotal]
  rw [copy_eq_placeAll hapart hwidth hheight]
  constructor
  · intro column hcolumn row hrow
    have hk := VramCursor.number_lt hcolumn hrow
    have hplace := VramCursor.coordinate_number hcolumn row
    have hpixel := get_placeAll policy hwidth' hheight' (source.pixels v) 0 v (by omega)
      (row * target.width + column) (by omega) (by rwa [Nat.zero_add])
    have hlt : row * target.width + column < (source.pixels v).length := by omega
    have hsource : (source.pixels v)[row * target.width + column] =
        v.get (source.x + column) (source.y + row) := by
      obtain ⟨hmod, hdiv⟩ := VramCursor.number_eq hcolumn row
      simp only [VramCursor.pixels, List.getElem_map, List.getElem_range, Vram.get_coordinate,
        hwidth, hmod, hdiv]
    rw [hpixel, hsource]
  · intro x y hcovers
    exact get_placeAll_outside _ (Nat.le_of_eq hlength) v hcovers

/-! ## The words of the commands -/

/-- The rectangle that the operand words of a fill name: its left edge is rounded down to a multiple
of sixteen, and its width is rounded up to one. -/
def fillArea (position size : UInt32) : VramCursor where
  x := position.toNat % 1024 / 16 * 16
  y := position.toNat / 65536 % 512
  width := (size.toNat % 1024 + 15) / 16 * 16
  height := size.toNat / 65536 % 512

/-- The rectangle with a corner and a size, of which zero stands for the largest. -/
def copyArea (corner size : UInt32) : VramCursor where
  x := corner.toNat % 1024
  y := corner.toNat / 65536 % 512
  width := if size.toNat % 1024 = 0 then 1024 else size.toNat % 1024
  height := if size.toNat / 65536 % 512 = 0 then 512 else size.toNat / 65536 % 512

/-- The pixel of a colour word: five bits from the top of each of its lower three bytes. -/
def pixelOf (color : UInt32) : UInt16 :=
  .ofNat (color.toNat / 8 % 32 + color.toNat / 2048 % 32 * 32 + color.toNat / 524288 % 32 * 1024)

/-- A size in which zero stands for the limit. -/
theorem extent_eq {n limit : Nat} (hlimit : 0 < limit) :
    extent n limit = if n % limit = 0 then limit else n % limit := by
  have hlt : n % limit < limit := Nat.mod_lt n hlimit
  have hn : (n + limit - 1) % limit = (n % limit + (limit - 1)) % limit := by
    rw [Nat.add_sub_assoc hlimit, Nat.mod_add_mod]
  rw [extent, hn]
  split
  · next hzero =>
    rw [hzero, Nat.zero_add, Nat.mod_eq_of_lt (Nat.sub_lt hlimit Nat.one_pos)]
    exact Nat.sub_add_cancel hlimit
  · next hpos =>
    have hround : n % limit + (limit - 1) = n % limit - 1 + limit := by omega
    rw [hround, Nat.add_mod_right, Nat.mod_eq_of_lt (by omega)]
    omega

/-- The upper five bits of a byte. -/
theorem toNat_topFive (byte : UInt8) : (byte >>> 3).toUInt16.toNat = byte.toNat / 8 := by
  rw [UInt8.toNat_toUInt16, UInt8.toNat_shiftRight]
  exact Nat.shiftRight_eq_div_pow _ 3

/-- Three times five bits, put together. -/
theorem toNat_fives {r g b : UInt16} (hr : r.toNat < 32) (hg : g.toNat < 32) (hb : b.toNat < 32) :
    ((b <<< 10) ||| (g <<< 5) ||| r).toNat = r.toNat + g.toNat * 32 + b.toNat * 1024 := by
  have hhigh : (b <<< 10).toNat = b.toNat <<< 10 := by
    rw [UInt16.toNat_shiftLeft]
    refine Nat.mod_eq_of_lt ?_
    show b.toNat <<< 10 < 65536
    rw [Nat.shiftLeft_eq]
    omega
  have hmiddle : (g <<< 5).toNat = g.toNat <<< 5 := by
    rw [UInt16.toNat_shiftLeft]
    refine Nat.mod_eq_of_lt ?_
    show g.toNat <<< 5 < 65536
    rw [Nat.shiftLeft_eq]
    omega
  have hlow : g.toNat <<< 5 ||| r.toNat = g.toNat * 32 + r.toNat := by
    rw [← Nat.shiftLeft_add_eq_or_of_lt hr, Nat.shiftLeft_eq]
  have hfits : g.toNat * 32 + r.toNat < 2 ^ 10 := by omega
  rw [UInt16.toNat_or, UInt16.toNat_or, hhigh, hmiddle, Nat.or_assoc, hlow,
    ← Nat.shiftLeft_add_eq_or_of_lt hfits, Nat.shiftLeft_eq]
  omega

/-- A pixel is put together from three times five bits. -/
theorem toPixel_eq (color : UInt32) : (Color.ofWord color).toPixel = pixelOf color := by
  have hfive : ∀ byte : UInt8, (byte >>> 3).toUInt16.toNat < 32 := by
    intro byte
    have hbyte := byte.toNat_lt
    rw [toNat_topFive]
    omega
  have hred : (Color.ofWord color).r.toNat = color.toNat % 256 := UInt32.toNat_toUInt8 color
  have hgreen : (Color.ofWord color).g.toNat = color.toNat / 256 % 256 :=
    toNat_byte color (show (8 : UInt32).toNat < 32 by decide)
  have hblue : (Color.ofWord color).b.toNat = color.toNat / 65536 % 256 :=
    toNat_byte color (show (16 : UInt32).toNat < 32 by decide)
  rw [← UInt16.toNat_inj, Color.toPixel, toNat_fives (hfive _) (hfive _) (hfive _), toNat_topFive,
    toNat_topFive, toNat_topFive, hred, hgreen, hblue, pixelOf, UInt16.toNat_ofNat_of_lt' (by
      show _ < 65536
      omega)]
  omega

theorem fillRectangle_eq (g : Gpu) (color position size : UInt32) :
    g.fillRectangle color position size =
      { g with
        vram := g.vram.fill (fillArea position size).x (fillArea position size).y
          (fillArea position size).width (fillArea position size).height
          (pixelOf color) } := by
  have hx : Word.field position 4 6 * 16 = position.toNat % 1024 / 16 * 16 := by
    rw [field_eq]
    omega
  have hy : Word.field position 16 9 = position.toNat / 65536 % 512 := field_eq position 16 9
  have hwidth : Word.field size 0 10 = size.toNat % 1024 := by
    rw [field_eq, Nat.pow_zero, Nat.div_one]
    rfl
  have hheight : Word.field size 16 9 = size.toNat / 65536 % 512 := field_eq size 16 9
  rw [fillRectangle, toPixel_eq, hx, hy, hwidth, hheight]
  rfl

theorem copyRectangle_eq (g : Gpu) (source target size : UInt32) :
    g.copyRectangle source target size =
      { g with
        vram := g.vram.copy g.maskPolicy (copyArea source size).x (copyArea source size).y
          (copyArea target size).x (copyArea target size).y (copyArea target size).width
          (copyArea target size).height } := by
  have hposition : ∀ w, positionOf w = (w.toNat % 1024, w.toNat / 65536 % 512) := by
    intro w
    rw [positionOf, field_eq, field_eq, Nat.pow_zero, Nat.div_one]
    rfl
  have hsize : sizeOf size = ((copyArea target size).width, (copyArea target size).height) := by
    have hwidth : Word.field size 0 16 % 1024 = size.toNat % 1024 := by
      rw [field_eq]
      omega
    have hheight : Word.field size 16 16 % 512 = size.toNat / 65536 % 512 := by
      rw [field_eq]
      omega
    rw [sizeOf, extent_eq (by decide), extent_eq (by decide), hwidth, hheight]
    rfl
  rw [copyRectangle, hposition, hposition, hsize]
  rfl

theorem fillArea_bounds (position size : UInt32) :
    (fillArea position size).width ≤ 1024 ∧ (fillArea position size).height ≤ 512 := by
  show (size.toNat % 1024 + 15) / 16 * 16 ≤ 1024 ∧ size.toNat / 65536 % 512 ≤ 512
  omega

theorem copyArea_bounds (corner size : UInt32) :
    (copyArea corner size).width ≤ 1024 ∧ (copyArea corner size).height ≤ 512 := by
  show (if size.toNat % 1024 = 0 then 1024 else size.toNat % 1024) ≤ 1024 ∧
    (if size.toNat / 65536 % 512 = 0 then 512 else size.toNat / 65536 % 512) ≤ 512
  constructor <;> split <;> omega

/-! ## The commands -/

section Commands

variable {g : Gpu} {first : UInt32} {rest : List UInt32}

/-- Other pixels are all that the command in front has made of the GPU. -/
structure Repainted (before after : Gpu) (rest : List UInt32) : Prop where
  /-- The words of the command have been taken. -/
  fifo : after.fifo.toList = rest
  /-- But for pixels and words, a step with nothing to do would have left the same. -/
  others : after =
    { before.advanceBeam.2 with
      vram := after.vram, fifo := after.fifo, interruptRequested := false }

/-- A command that only writes to video memory. -/
theorem repainted_of_execute {command : Command} (vram : Vram) (hidle : g.intake = .command)
    (hwaiting : g.fifo.toList = first :: rest) (hcommand : Command.ofWord first = command)
    (hcomplete : command.length ≤ (first :: rest).length)
    (hpaints : ∀ fifo,
      (g.advanceBeam.2.withFifo fifo).execute command ((first :: rest).take command.length) =
        { g.advanceBeam.2 with vram, fifo }) :
    Repainted g g.step.2 ((first :: rest).drop command.length) ∧ g.step.2.vram = vram := by
  subst hcommand
  have hstep := g.step_of_command hidle hwaiting hcomplete
  rw [hpaints] at hstep
  have hfifo := (g.fifo.take_eq (Command.ofWord first).length).2
  rw [hwaiting] at hfifo
  rw [hstep]
  exact ⟨⟨hfifo, rfl⟩, rfl⟩

/-- Time leaves pixels and mask settings. -/
theorem vram_advanceBeam (g : Gpu) : g.advanceBeam.2.vram = g.vram := by
  show g.advanceBeam.2.core.vram = _
  rw [core_advanceBeam]
  rfl

theorem maskPolicy_advanceBeam (g : Gpu) : g.advanceBeam.2.maskPolicy = g.maskPolicy := by
  rw [← maskPolicy_core, core_advanceBeam, maskPolicy_core]

/-- **A fill** fills its rectangle, whatever the settings say. -/
theorem step_fill (hidle : g.intake = .command) {position size : UInt32}
    (hcode : first >>> 24 = 0x02) (hwaiting : g.fifo.toList = first :: position :: size :: rest) :
    Repainted g g.step.2 rest ∧
    Filled (fillArea position size) (pixelOf first) g.vram g.step.2.vram := by
  have hcommand : Command.ofWord first = .fill := by
    rw [Command.ofWord, hcode]
    rfl
  let area := fillArea position size
  obtain ⟨hrepainted, hvram⟩ := repainted_of_execute
    (g.vram.fill area.x area.y area.width area.height (pixelOf first)) hidle hwaiting hcommand
    (by simp [Command.length]) fun fifo => by
      rw [← vram_advanceBeam]
      exact fillRectangle_eq _ first position size
  obtain ⟨hwidth, hheight⟩ := fillArea_bounds position size
  refine ⟨hrepainted, ?_⟩
  rw [hvram]
  exact filled_fill hwidth hheight (pixelOf first) g.vram

/-- **A copy** between rectangles that are apart offers each pixel of its target the one of its
source, under the mask settings. -/
theorem step_copy (hidle : g.intake = .command) {source target size : UInt32}
    (hcode : first >>> 24 = 0x80)
    (hwaiting : g.fifo.toList = first :: source :: target :: size :: rest) :
    Repainted g g.step.2 rest ∧
    (Apart (copyArea source size) (copyArea target size) →
      Copied g.maskPolicy (copyArea source size) (copyArea target size) g.vram g.step.2.vram) := by
  have hcommand : Command.ofWord first = .copy := by
    rw [Command.ofWord, hcode]
    rfl
  let area := copyArea target size
  obtain ⟨hrepainted, hvram⟩ := repainted_of_execute
    (g.vram.copy g.maskPolicy (copyArea source size).x (copyArea source size).y area.x area.y
      area.width area.height) hidle hwaiting hcommand (by simp [Command.length]) fun fifo => by
      rw [← vram_advanceBeam, ← maskPolicy_advanceBeam]
      exact copyRectangle_eq _ source target size
  obtain ⟨hwidth, hheight⟩ := copyArea_bounds target size
  refine ⟨hrepainted, fun hapart => ?_⟩
  rw [hvram]
  exact copied_copy hapart rfl rfl hwidth hheight g.vram

/-- **Fill and copy touch their rectangles only.**  Let the words of a fill or of a copy wait in front.
The next step takes them, and changes nothing else than pixels.  A fill puts its colour on every pixel
of its rectangle, whatever the settings say, and leaves the others, which are all of them if the
rectangle is empty.  A copy between rectangles that are apart makes each pixel of its target the one
of the source, masked if pixels are to be masked, unless it is masked itself and such pixels are to be
kept; and it leaves the others, the source among them. -/
theorem step_fillOrCopy (hidle : g.intake = .command) :
    (∀ (color position size : UInt32) (rest : List UInt32), color >>> 24 = 0x02 →
      g.fifo.toList = color :: position :: size :: rest →
        Repainted g g.step.2 rest ∧
        Filled (fillArea position size) (pixelOf color) g.vram g.step.2.vram ∧
        ((fillArea position size).width = 0 ∨ (fillArea position size).height = 0 →
          g.step.2.vram = g.vram)) ∧
    (∀ (command source target size : UInt32) (rest : List UInt32), command >>> 24 = 0x80 →
      g.fifo.toList = command :: source :: target :: size :: rest →
        Repainted g g.step.2 rest ∧
        (Apart (copyArea source size) (copyArea target size) →
          Copied g.maskPolicy (copyArea source size) (copyArea target size) g.vram
            g.step.2.vram ∧
          ∀ x y, (copyArea source size).Covers x y →
            g.step.2.vram.get x y = g.vram.get x y)) := by
  constructor
  · intro color position size rest hcode hwaiting
    obtain ⟨hrepainted, hfilled⟩ := step_fill hidle hcode hwaiting
    refine ⟨hrepainted, hfilled, fun hempty => Vram.ext_get fun x y => hfilled.outside x y ?_⟩
    rintro ⟨column, hcolumn, row, hrow, -⟩
    omega
  · intro command source target size rest hcode hwaiting
    obtain ⟨hrepainted, hcopied⟩ := step_copy hidle hcode hwaiting
    refine ⟨hrepainted, fun hapart => ⟨hcopied hapart, fun x y hsource => ?_⟩⟩
    exact (hcopied hapart).outside x y fun htarget => hapart x y ⟨hsource, htarget⟩

end Commands

/-- A fill and a copy around the edges of video memory, under settings that keep and set the mask.  The
fill covers a masked pixel, and the copy, whose target has the same pixel, leaves it. -/
theorem step_fillOrCopy_edges :
    let start : Gpu :=
      { vram := (Vram.black.set 4 0 0x1111).set 0 0 0x8001
        status := (Status.powerOn.put .setMask true).put .checkMask true }
    let fill := start.performAll [.queue 0x020000FF, .queue 0x01FF03F3, .queue 0x00020011]
    let copy := start.performAll
      [.queue 0x80000000, .queue 0x00000004, .queue 0x000003FF, .queue 0x00010002]
    fill.step.2.vram.get 0 0 = 0x001F ∧ fill.step.2.vram.get 1008 511 = 0x001F ∧
      fill.step.2.vram.get 16 0 = 0 ∧ copy.step.2.vram.get 1023 0 = 0x9111 ∧
      copy.step.2.vram.get 0 0 = 0x8001 ∧ copy.step.2.vram.get 4 0 = 0x1111 := by
  intro start fill copy
  have hold : ∀ x y, start.vram.get x y =
      if 0 % 1024 = x % 1024 ∧ 0 % 512 = y % 512 then 0x8001
      else if 4 % 1024 = x % 1024 ∧ 0 % 512 = y % 512 then 0x1111 else 0 := by
    intro x y
    refine (Vram.get_set _ 0 0 0x8001 x y).trans (if_congr Iff.rfl rfl ?_)
    refine (Vram.black.get_set 4 0 0x1111 x y).trans (if_congr Iff.rfl rfl ?_)
    exact Table.entry_replicate _ _
  obtain ⟨-, hfilled, -⟩ := (step_fillOrCopy (g := fill) (by decide +kernel)).1 0x020000FF
    0x01FF03F3 0x00020011 [] (by decide) (by decide +kernel)
  obtain ⟨-, hcopy⟩ := (step_fillOrCopy (g := copy) (by decide +kernel)).2 0x80000000 0x00000004
    0x000003FF 0x00010002 [] (by decide) (by decide +kernel)
  have hapart : Apart (copyArea 0x00000004 0x00010002) (copyArea 0x000003FF 0x00010002) := by
    rintro x y ⟨⟨column, hcolumn, row, hrow, hx, hy⟩, column', hcolumn', row', hrow', hx', hy'⟩
    have hlt : column < 2 := hcolumn
    have hlt' : column' < 2 := hcolumn'
    have hat : (4 + column) % 1024 = x % 1024 := hx
    have hat' : (1023 + column') % 1024 = x % 1024 := hx'
    omega
  obtain ⟨hcopied, hsource⟩ := hcopy hapart
  have hpixel : pixelOf 0x020000FF = 0x001F := by decide
  refine ⟨?_, ?_, ?_, ?_, ?_, ?_⟩
  · exact (hfilled.inside 0 0 ⟨16, by decide, 1, by decide, by decide, by decide⟩).trans hpixel
  · exact (hfilled.inside 1008 511 ⟨0, by decide, 0, by decide, by decide, by decide⟩).trans hpixel
  · refine (hfilled.outside 16 0 ?_).trans ((hold 16 0).trans (by decide))
    rintro ⟨column, hcolumn, row, -, hx, -⟩
    have hlt : column < 32 := hcolumn
    have hat : (1008 + column) % 1024 = 16 := hx
    omega
  · refine (hcopied.inside 0 (by decide) 0 (by decide)).trans ?_
    refine (congrArg₂ (copy.maskPolicy.over · ·) (hold 1023 0) (hold 4 0)).trans ?_
    decide +kernel
  · have hwrapped : copy.step.2.vram.get 0 0 = copy.step.2.vram.get 1024 0 :=
      Vram.get_congr _ rfl rfl
    refine hwrapped.trans ((hcopied.inside 1 (by decide) 0 (by decide)).trans ?_)
    refine (congrArg₂ (copy.maskPolicy.over · ·) (hold 1024 0) (hold 5 0)).trans ?_
    decide +kernel
  · refine (hsource 4 0 ⟨0, by decide, 0, by decide, by decide, by decide⟩).trans ?_
    exact (hold 4 0).trans (by decide)

end PlayStation.Gpu

/-
  The walk over a RECTANGLE of video memory.

  A cursor goes over its rectangle row by row, around the edges of video memory.  Uploads and
  downloads both follow one.

  1. **Pixels of the rectangle** (`coordinate`): where pixel `k` lies.  The cursor names one after
     the other (`next?_eq`), and no pixel twice, since a rectangle is no larger than video memory
     (`eq_of_coordinate`).

  2. **Pixels that are written** (`placeAll`): so every pixel is offered its value as if it were the
     only one (`get_placeAll`), and the pixels outside stay (`get_placeAll_of_ne`).
-/
import Mathlib.Data.Nat.ModEq
import PlayStation.Gpu.Step

namespace PlayStation.Gpu

/-! ## Pixels of the rectangle -/

namespace VramCursor

/-- Where pixel `k` of the rectangle lies. -/
def coordinate (c : VramCursor) (k : Nat) : Nat × Nat :=
  ((c.x + k % c.width) % 1024, (c.y + k / c.width) % 512)

/-- The cursor over the same rectangle, moved to a pixel. -/
def moveTo (c : VramCursor) (k : Nat) : VramCursor := { c with index := k }

/-- The coordinates are those of a pixel. -/
theorem coordinate_wrapped (c : VramCursor) (k : Nat) :
    ((c.coordinate k).1 % 1024, (c.coordinate k).2 % 512) = c.coordinate k :=
  Prod.ext (Nat.mod_mod _ _) (Nat.mod_mod _ _)

theorem isDone_eq (c : VramCursor) : c.isDone = decide (c.total ≤ c.index) := by
  rw [isDone, remaining, Bool.eq_iff_iff, beq_iff_eq, decide_eq_true_iff]
  exact Nat.sub_eq_zero_iff_le

/-- **The cursor names one pixel after the other**, up to the last one. -/
theorem next?_eq (c : VramCursor) :
    c.next? =
      if c.index < c.total then some (c.coordinate c.index, c.moveTo (c.index + 1)) else none := by
  rw [next?, isDone_eq]
  by_cases h : c.index < c.total
  · rw [if_pos h, if_neg (by rw [decide_eq_true_iff]; omega)]
    rfl
  · rw [if_neg h, if_pos (by rw [decide_eq_true_iff]; omega)]

/-- **No pixel is named twice.** -/
theorem eq_of_coordinate {c : VramCursor} (hwidth : c.width ≤ 1024) (hheight : c.height ≤ 512)
    {k l : Nat} (hk : k < c.total) (hl : l < c.total) (h : c.coordinate k = c.coordinate l) :
    k = l := by
  have hpos : 0 < c.width := Nat.pos_of_mul_pos_right (Nat.zero_lt_of_lt hk)
  have hcolumn : ∀ n, n % c.width < 1024 :=
    fun n => Nat.lt_of_lt_of_le (Nat.mod_lt n hpos) hwidth
  have hrow : ∀ n, n < c.total → n / c.width < 512 :=
    fun n hn => Nat.lt_of_lt_of_le (Nat.div_lt_of_lt_mul hn) hheight
  have hx : c.x + k % c.width ≡ c.x + l % c.width [MOD 1024] := congrArg Prod.fst h
  have hy : c.y + k / c.width ≡ c.y + l / c.width [MOD 512] := congrArg Prod.snd h
  -- columns less than a turn apart are different, and so are rows
  have hsameColumn : k % c.width = l % c.width :=
    (hx.add_left_cancel' c.x).eq_of_lt_of_lt (hcolumn k) (hcolumn l)
  have hsameRow : k / c.width = l / c.width :=
    (hy.add_left_cancel' c.y).eq_of_lt_of_lt (hrow k hk) (hrow l hl)
  rw [← Nat.div_add_mod k c.width, ← Nat.div_add_mod l c.width, hsameColumn, hsameRow]

end VramCursor

/-! ## Pixels that are written -/

/-- What a pixel becomes when another is written to its place under a mask policy. -/
def MaskPolicy.over (policy : MaskPolicy) (old new : UInt16) : UInt16 :=
  if policy.keep && old &&& 0x8000 != 0 then old
  else if policy.force then new ||| 0x8000
  else new

namespace Vram

theorem index_eq_iff {x y x' y' : Nat} :
    index x y = index x' y' ↔ x % 1024 = x' % 1024 ∧ y % 512 = y' % 512 := by
  rw [Fin.ext_iff]
  show y % 512 * 1024 + x % 1024 = y' % 512 * 1024 + x' % 1024 ↔ _
  omega

/-- Coordinates that wrap to the same pixel. -/
theorem get_congr (v : Vram) {x y x' y' : Nat} (hx : x % 1024 = x' % 1024)
    (hy : y % 512 = y' % 512) : v.get x y = v.get x' y' := by
  rw [get, get, index_eq_iff.2 ⟨hx, hy⟩]

theorem get_set (v : Vram) (x y : Nat) (pixel : UInt16) (x' y' : Nat) :
    (v.set x y pixel).get x' y' =
      if x % 1024 = x' % 1024 ∧ y % 512 = y' % 512 then pixel else v.get x' y' := by
  rw [get, set]
  by_cases h : x % 1024 = x' % 1024 ∧ y % 512 = y' % 512
  · rw [if_pos h, index_eq_iff.2 h]
    exact Table.entry_put_self _ _ _
  · rw [if_neg h]
    exact Table.entry_put_of_ne _ _ fun heq => h (index_eq_iff.1 heq)

/-- A pixel is plotted to its place and to no other. -/
theorem get_plot (v : Vram) (policy : MaskPolicy) (x y : Nat) (pixel : UInt16) (x' y' : Nat) :
    (v.plot policy x y pixel).get x' y' =
      if x % 1024 = x' % 1024 ∧ y % 512 = y' % 512 then policy.over (v.get x' y') pixel
      else v.get x' y' := by
  unfold plot MaskPolicy.over
  by_cases h : x % 1024 = x' % 1024 ∧ y % 512 = y' % 512
  · rw [if_pos h, v.get_congr h.1 h.2]
    split
    · rfl
    · rw [get_set, if_pos h]
  · rw [if_neg h]
    split
    · rfl
    · rw [get_set, if_neg h]

/-- A pixel is plotted to its place in a rectangle and to no other. -/
theorem get_plot_coordinate (v : Vram) (policy : MaskPolicy) (c : VramCursor) (k : Nat)
    (pixel : UInt16) (x y : Nat) :
    (v.plot policy (c.coordinate k).1 (c.coordinate k).2 pixel).get x y =
      if c.coordinate k = (x % 1024, y % 512) then policy.over (v.get x y) pixel
      else v.get x y := by
  have hplace : (c.coordinate k).1 % 1024 = x % 1024 ∧ (c.coordinate k).2 % 512 = y % 512 ↔
      c.coordinate k = (x % 1024, y % 512) := by
    rw [← c.coordinate_wrapped k, Prod.ext_iff, Nat.mod_mod, Nat.mod_mod]
  rw [get_plot]
  exact if_congr hplace rfl rfl

end Vram

/-- Writes some pixels at a cursor. -/
def placeAll (policy : MaskPolicy) : List UInt16 → VramCursor → Vram → VramCursor × Vram
  | [], cursor, vram => (cursor, vram)
  | pixel :: pixels, cursor, vram =>
    let (cursor, vram) := place policy pixel cursor vram
    placeAll policy pixels cursor vram

section PlaceAll

variable (policy : MaskPolicy) {c : VramCursor}

theorem place_of_lt {n : Nat} (pixel : UInt16) (v : Vram) (h : n < c.total) :
    place policy pixel (c.moveTo n) v =
      (c.moveTo (n + 1), v.plot policy (c.coordinate n).1 (c.coordinate n).2 pixel) := by
  have hnext : (c.moveTo n).next? = some (c.coordinate n, c.moveTo (n + 1)) :=
    (c.moveTo n).next?_eq.trans (if_pos h)
  rw [place, hnext]

theorem placeAll_append (pixels more : List UInt16) : ∀ (c : VramCursor) (v : Vram),
    placeAll policy (pixels ++ more) c v =
      placeAll policy more (placeAll policy pixels c v).1 (placeAll policy pixels c v).2 := by
  induction pixels with
  | nil => exact fun c v => rfl
  | cons pixel pixels ih => exact fun c v => ih _ _

/-- The cursor moves on by as many pixels. -/
theorem cursor_placeAll (pixels : List UInt16) : ∀ (n : Nat) (v : Vram),
    n + pixels.length ≤ c.total →
    (placeAll policy pixels (c.moveTo n) v).1 = c.moveTo (n + pixels.length) := by
  induction pixels with
  | nil => exact fun n v _ => rfl
  | cons pixel pixels ih =>
    intro n v hroom
    rw [List.length_cons] at hroom ⊢
    rw [placeAll, place_of_lt policy pixel v (by omega)]
    have hnext := ih (n + 1) (v.plot policy (c.coordinate n).1 (c.coordinate n).2 pixel) (by omega)
    rw [hnext]
    congr 1
    omega

/-- **Pixels outside stay** as they are. -/
theorem get_placeAll_of_ne {x y : Nat} (pixels : List UInt16) : ∀ (n : Nat) (v : Vram),
    n + pixels.length ≤ c.total →
    (∀ k, n ≤ k → k < n + pixels.length → c.coordinate k ≠ (x % 1024, y % 512)) →
    (placeAll policy pixels (c.moveTo n) v).2.get x y = v.get x y := by
  induction pixels with
  | nil => exact fun n v _ _ => rfl
  | cons pixel pixels ih =>
    intro n v hroom hother
    rw [List.length_cons] at hroom hother
    rw [placeAll, place_of_lt policy pixel v (by omega)]
    have htail := ih (n + 1) (v.plot policy (c.coordinate n).1 (c.coordinate n).2 pixel) (by omega)
      fun k hle hlt => hother k (by omega) (by omega)
    rw [htail, Vram.get_plot_coordinate, if_neg (hother n (Nat.le_refl n) (by omega))]

/-- **A pixel is offered its value** as if it were the only one. -/
theorem get_placeAll (hwidth : c.width ≤ 1024) (hheight : c.height ≤ 512) {x y : Nat}
    (pixels : List UInt16) : ∀ (n : Nat) (v : Vram), n + pixels.length ≤ c.total →
    ∀ k (hk : k < pixels.length), c.coordinate (n + k) = (x % 1024, y % 512) →
      (placeAll policy pixels (c.moveTo n) v).2.get x y = policy.over (v.get x y) pixels[k] := by
  induction pixels with
  | nil => exact fun _ _ _ k hk => absurd hk (Nat.not_lt_zero k)
  | cons pixel pixels ih =>
    intro n v hroom k hk hplace
    rw [List.length_cons] at hroom hk
    rw [placeAll, place_of_lt policy pixel v (by omega)]
    cases k with
    | zero =>
      rw [Nat.add_zero] at hplace
      -- the pixels behind go to other places
      have hother : ∀ l, n + 1 ≤ l → l < n + 1 + pixels.length →
          c.coordinate l ≠ (x % 1024, y % 512) := by
        intro l hle hlt hsame
        have := VramCursor.eq_of_coordinate hwidth hheight (by omega) (by omega)
          (hsame.trans hplace.symm)
        omega
      have htail := get_placeAll_of_ne policy pixels (n + 1)
        (v.plot policy (c.coordinate n).1 (c.coordinate n).2 pixel) (by omega) hother
      rw [htail, Vram.get_plot_coordinate, if_pos hplace]
      rfl
    | succ k =>
      have hfirst : c.coordinate n ≠ (x % 1024, y % 512) := by
        intro hsame
        have := VramCursor.eq_of_coordinate hwidth hheight (by omega) (by omega)
          (hsame.trans hplace.symm)
        omega
      have htail := ih (n + 1) (v.plot policy (c.coordinate n).1 (c.coordinate n).2 pixel)
        (by omega) k (by omega) (by rw [← hplace]; congr 1; omega)
      rw [htail, Vram.get_plot_coordinate, if_neg hfirst]
      rfl

end PlaceAll

end PlayStation.Gpu

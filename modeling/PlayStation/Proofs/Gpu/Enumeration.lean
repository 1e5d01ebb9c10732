/-
  The cursor ENUMERATES its rectangle.

  Uploads and downloads ask a cursor for one pixel after the other, and never ask how many there are.
  So the cursor has to come out even: it names every pixel that is left once, in order, and then
  none, however often it is asked.

  1. **Calls** (`VramCursor.calls`): the first answers are pixels, as many as are left, and all
     others are none (`calls_eq`).

  2. **Registers** (`CursorRegisters`): the device holds the rectangle in numbers of 16 bits and the
     place in it in one of 32.  A call is told a second time on these, with the arithmetic of the
     host checked: a product or a sum may overflow, a divisor may be zero, and a number may lose
     bits when it is cut down to 16.

  3. **One call** (`next?_follows`): none of this happens.  A rectangle without width has no pixel
     left, so nobody divides by its width; what is left lies in front of the last row, so the row
     has 16 bits, and the next place 32.

  4. **All calls** (`enumerates`), by induction on their number.
-/
import Mathlib.Data.List.Nodup
import PlayStation.Proofs.Cpu.ExactArithmetic
import PlayStation.Proofs.Gpu.Cursor

namespace PlayStation

/-! ## Arithmetic of the host -/

namespace Host

/-- An unsigned product of 32 bits, or an error if it does not fit. -/
def mulWord? (a b : UInt32) : Option UInt32 :=
  if a.toNat * b.toNat < UInt32.size then some (a * b) else none

/-- An unsigned sum of 32 bits, or an error if it does not fit. -/
def addWord? (a b : UInt32) : Option UInt32 :=
  if a.toNat + b.toNat < UInt32.size then some (a + b) else none

/-- A number cut down to 16 bits, or an error if bits are lost. -/
def half? (n : UInt32) : Option UInt16 := if n.toNat < UInt16.size then some n.toUInt16 else none

end Host

namespace Gpu

/-! ## Calls -/

namespace VramCursor

/-- The answers to some calls for the next pixel. -/
def calls : Nat → VramCursor → List (Option (Nat × Nat))
  | 0, _ => []
  | n + 1, c =>
    match c.next? with
    | none => none :: calls n c
    | some (pixel, c) => some pixel :: calls n c

theorem remaining_eq_zero_iff (c : VramCursor) : c.remaining = 0 ↔ c.total ≤ c.index :=
  Nat.sub_eq_zero_iff_le

/-- **Pixels as long as there are any**, and none behind them. -/
theorem calls_eq (n : Nat) : ∀ c : VramCursor,
    calls n c = (List.range n).map fun i =>
      if i < c.remaining then some (c.coordinate (c.index + i)) else none := by
  induction n with
  | zero => exact fun c => rfl
  | succ n ih =>
    intro c
    rw [calls, next?_eq, List.range_succ_eq_map, List.map_cons, List.map_map]
    rcases Nat.lt_or_ge c.index c.total with hlt | hdone
    · -- one pixel less is left behind this one
      have hpos : 0 < c.remaining := Nat.sub_pos_of_lt hlt
      have hless : (c.moveTo (c.index + 1)).remaining = c.remaining - 1 := by
        show c.total - (c.index + 1) = c.total - c.index - 1
        omega
      rw [if_pos hlt, if_pos hpos, Nat.add_zero]
      simp only [ih, hless]
      congr 1
      apply List.map_congr_left
      intro i _
      have hplace : (c.moveTo (c.index + 1)).coordinate ((c.moveTo (c.index + 1)).index + i) =
          c.coordinate (c.index + (i + 1)) := by
        show c.coordinate (c.index + 1 + i) = _
        congr 1
        omega
      show (if i < c.remaining - 1 then some _ else none) =
        if i + 1 < c.remaining then some _ else none
      rw [hplace]
      exact if_congr (by omega) rfl rfl
    · have hnone : c.remaining = 0 := c.remaining_eq_zero_iff.2 hdone
      rw [if_neg (Nat.not_lt.2 hdone)]
      simp only [ih, hnone, Nat.not_lt_zero, if_false]
      rfl

/-- **No pixel is named twice** on the way through a rectangle. -/
theorem nodup_calls {c : VramCursor} (hwidth : c.width ≤ 1024) (hheight : c.height ≤ 512) :
    (calls c.remaining c).Nodup := by
  rw [calls_eq]
  refine List.Nodup.map_on ?_ List.nodup_range
  intro i hi j hj heq
  have hi : i < c.remaining := List.mem_range.1 hi
  have hj : j < c.remaining := List.mem_range.1 hj
  have hleft : c.remaining = c.total - c.index := rfl
  rw [if_pos hi, if_pos hj, Option.some.injEq] at heq
  have := eq_of_coordinate hwidth hheight (by omega) (by omega) heq
  omega

end VramCursor

/-! ## Registers -/

/-- A cursor in registers. -/
structure CursorRegisters where
  x : UInt16
  y : UInt16
  width : UInt16
  height : UInt16
  index : UInt32
deriving DecidableEq, Repr

/-- The pixel that two registers name. -/
def asPixel (p : UInt16 × UInt16) : Nat × Nat := (p.1.toNat, p.2.toNat)

namespace CursorRegisters

/-- The cursor that the registers hold. -/
def cursor (r : CursorRegisters) : VramCursor where
  x := r.x.toNat
  y := r.y.toNat
  width := r.width.toNat
  height := r.height.toNat
  index := r.index.toNat

/-- The number of pixels of the rectangle. -/
def total? (r : CursorRegisters) : Option UInt32 :=
  Host.mulWord? r.width.toUInt32 r.height.toUInt32

/-- The number of pixels still ahead, none if the place is behind the last one. -/
def remaining? (r : CursorRegisters) : Option UInt32 := do
  let total ← r.total?
  return if r.index ≤ total then total - r.index else 0

def isDone? (r : CursorRegisters) : Option Bool := do
  let remaining ← r.remaining?
  return remaining == 0

/-- A call for the next pixel: the answer, and the registers behind it.  Coordinates wrap around in
their registers before they are cut down to those of a pixel. -/
def next? (r : CursorRegisters) : Option (Option (UInt16 × UInt16) × CursorRegisters) := do
  if ← r.isDone? then return (none, r)
  else
    let column ← Host.half? (← Host.remUnsigned? r.index r.width.toUInt32)
    let row ← Host.half? (← Host.divUnsigned? r.index r.width.toUInt32)
    let index ← Host.addWord? r.index 1
    return (some ((r.x + column) &&& 0x3FF, (r.y + row) &&& 0x1FF), { r with index })

/-- The answers to some calls. -/
def calls? : Nat → CursorRegisters → Option (List (Option (UInt16 × UInt16)))
  | 0, _ => some []
  | n + 1, r => do
    let (answer, r) ← r.next?
    let answers ← calls? n r
    return answer :: answers

variable (r : CursorRegisters)

/-! ## One call -/

/-- Two sizes of 16 bits have a product of 32. -/
theorem total_lt : r.cursor.total < UInt32.size :=
  calc r.width.toNat * r.height.toNat < 0x10000 * 0x10000 :=
        Nat.mul_lt_mul_of_lt_of_lt r.width.toNat_lt r.height.toNat_lt
    _ = UInt32.size := rfl

theorem total?_eq : r.total? = some (UInt32.ofNat r.cursor.total) := by
  have hproduct : r.width.toUInt32 * r.height.toUInt32 = UInt32.ofNat r.cursor.total := by
    apply UInt32.toNat_inj.1
    rw [UInt32.toNat_mul, UInt16.toNat_toUInt32, UInt16.toNat_toUInt32,
      UInt32.toNat_ofNat_of_lt' r.total_lt]
    exact Nat.mod_eq_of_lt r.total_lt
  rw [total?, Host.mulWord?, UInt16.toNat_toUInt32, UInt16.toNat_toUInt32, hproduct]
  exact if_pos r.total_lt

theorem remaining?_eq : r.remaining? = some (UInt32.ofNat r.cursor.remaining) := by
  have htotal : (UInt32.ofNat r.cursor.total).toNat = r.cursor.total :=
    UInt32.toNat_ofNat_of_lt' r.total_lt
  have hsub : (if r.index ≤ UInt32.ofNat r.cursor.total then UInt32.ofNat r.cursor.total - r.index
      else 0) = UInt32.ofNat r.cursor.remaining := by
    have hleft : r.cursor.remaining = r.cursor.total - r.index.toNat := rfl
    apply UInt32.toNat_inj.1
    rw [UInt32.toNat_ofNat_of_lt' (by have := r.total_lt; omega), hleft]
    by_cases hle : r.index ≤ UInt32.ofNat r.cursor.total
    · rw [if_pos hle, UInt32.toNat_sub_of_le _ _ hle, htotal]
    · rw [UInt32.le_iff_toNat_le, htotal] at hle
      rw [if_neg (by rw [UInt32.le_iff_toNat_le, htotal]; exact hle)]
      show 0 = _
      omega
  rw [remaining?, total?_eq]
  exact congrArg some hsub

theorem isDone?_eq : r.isDone? = some r.cursor.isDone := by
  have hzero : (UInt32.ofNat r.cursor.remaining == 0) = (r.cursor.remaining == 0) := by
    have hlt : r.cursor.remaining < UInt32.size := Nat.lt_of_le_of_lt (Nat.sub_le _ _) r.total_lt
    rw [Bool.eq_iff_iff, beq_iff_eq, beq_iff_eq, ← UInt32.toNat_inj,
      UInt32.toNat_ofNat_of_lt' hlt]
    rfl
  rw [isDone?, remaining?_eq]
  exact congrArg some hzero

/-- A number of 16 bits comes through the cut. -/
theorem half?_of_lt {n : UInt32} (h : n.toNat < UInt16.size) :
    Host.half? n = some n.toUInt16 := if_pos h

/-- A coordinate wraps around in its register and then in video memory, which is as if it had done so
in video memory alone. -/
theorem toNat_wrapped (a b : UInt16) {ones : UInt16} {n : Nat} (hones : ones.toNat = 2 ^ n - 1)
    (hn : n ≤ 16) : ((a + b) &&& ones).toNat = (a.toNat + b.toNat) % 2 ^ n := by
  rw [UInt16.toNat_and, hones, Nat.and_two_pow_sub_one_eq_mod, UInt16.toNat_add]
  exact Nat.mod_mod_of_dvd _ (Nat.pow_dvd_pow 2 hn)

/-- The column that a call comes to. -/
def column : UInt32 := r.index % r.width.toUInt32

/-- The row that a call comes to. -/
def row : UInt32 := r.index / r.width.toUInt32

theorem toNat_column : r.column.toNat = r.index.toNat % r.width.toNat := by
  rw [column, UInt32.toNat_mod, UInt16.toNat_toUInt32]

theorem toNat_row : r.row.toNat = r.index.toNat / r.width.toNat := by
  rw [row, UInt32.toNat_div, UInt16.toNat_toUInt32]

/-- The pixel that a call comes to. -/
def named : UInt16 × UInt16 :=
  ((r.x + r.column.toUInt16) &&& 0x3FF, (r.y + r.row.toUInt16) &&& 0x1FF)

section Ahead

variable {r} (hlt : r.cursor.index < r.cursor.total)

include hlt

theorem width_pos : 0 < r.width.toNat := Nat.pos_of_mul_pos_right (Nat.zero_lt_of_lt hlt)

theorem column_lt : r.column.toNat < UInt16.size := by
  rw [toNat_column]
  exact Nat.lt_trans (Nat.mod_lt _ (width_pos hlt)) r.width.toNat_lt

theorem row_lt : r.row.toNat < UInt16.size := by
  rw [toNat_row]
  exact Nat.lt_trans (Nat.div_lt_of_lt_mul hlt) r.height.toNat_lt

/-- The next place is no further than the number of pixels. -/
theorem index_succ_lt : r.index.toNat + 1 < UInt32.size := Nat.lt_of_le_of_lt hlt r.total_lt

/-- With a pixel ahead, the host has no error on the way to it. -/
theorem next?_of_lt : r.next? = some (some r.named, { r with index := r.index + 1 }) := by
  have hwidth : r.width.toUInt32 ≠ 0 := by
    intro hzero
    have hnone : r.width.toNat = 0 := by
      rw [← UInt16.toNat_toUInt32, hzero]
      rfl
    have hpos := width_pos hlt
    omega
  have hcolumn : Host.remUnsigned? r.index r.width.toUInt32 = some r.column := if_pos hwidth
  have hrow : Host.divUnsigned? r.index r.width.toUInt32 = some r.row := if_pos hwidth
  have hindex : Host.addWord? r.index 1 = some (r.index + 1) := if_pos (index_succ_lt hlt)
  rw [next?, isDone?_eq, VramCursor.isDone_eq, decide_eq_false (Nat.not_le.2 hlt), hcolumn, hrow,
    hindex]
  simp only [Option.bind_eq_bind, Option.bind_some, half?_of_lt (column_lt hlt),
    half?_of_lt (row_lt hlt)]
  rfl

theorem asPixel_named : asPixel r.named = r.cursor.coordinate r.cursor.index := by
  apply Prod.ext
  · show ((r.x + _) &&& 0x3FF).toNat = (r.x.toNat + r.index.toNat % r.width.toNat) % 2 ^ 10
    rw [toNat_wrapped _ _ (n := 10) rfl (by decide), UInt32.toNat_toUInt16,
      Nat.mod_eq_of_lt (column_lt hlt), toNat_column]
  · show ((r.y + _) &&& 0x1FF).toNat = (r.y.toNat + r.index.toNat / r.width.toNat) % 2 ^ 9
    rw [toNat_wrapped _ _ (n := 9) rfl (by decide), UInt32.toNat_toUInt16,
      Nat.mod_eq_of_lt (row_lt hlt), toNat_row]

theorem cursor_next :
    cursor { r with index := r.index + 1 } = r.cursor.moveTo (r.cursor.index + 1) := by
  have hindex : (r.index + 1).toNat = r.index.toNat + 1 := by
    rw [UInt32.toNat_add]
    exact Nat.mod_eq_of_lt (index_succ_lt hlt)
  exact congrArg r.cursor.moveTo hindex

end Ahead

/-- The answer to a call and the registers behind it are those of the cursor. -/
def Follows (answer : Option (UInt16 × UInt16)) (after : CursorRegisters) : Prop :=
  match r.cursor.next? with
  | none => answer = none ∧ after = r
  | some (pixel, c) => answer.map asPixel = some pixel ∧ after.cursor = c

/-- **A call is without an error** of the host, and it is one of the cursor. -/
theorem next?_follows : ∃ answer after, r.next? = some (answer, after) ∧ r.Follows answer after := by
  unfold Follows
  rw [VramCursor.next?_eq]
  rcases Nat.lt_or_ge r.cursor.index r.cursor.total with hlt | hdone
  · rw [if_pos hlt]
    exact ⟨_, _, next?_of_lt hlt, congrArg some (asPixel_named hlt), cursor_next hlt⟩
  · -- no pixel is ahead, so nothing is divided
    have hnext : r.next? = some (none, r) := by
      rw [next?, isDone?_eq, VramCursor.isDone_eq, decide_eq_true hdone]
      rfl
    rw [if_neg (Nat.not_lt.2 hdone)]
    exact ⟨none, r, hnext, rfl, rfl⟩

/-! ## All calls -/

/-- **Calls are without an error** of the host, and they are those of the cursor. -/
theorem calls?_follows (n : Nat) : ∀ r : CursorRegisters, ∃ answers,
    calls? n r = some answers ∧
      answers.map (Option.map asPixel) = VramCursor.calls n r.cursor := by
  induction n with
  | zero => exact fun r => ⟨[], rfl, rfl⟩
  | succ n ih =>
    intro r
    obtain ⟨answer, after, hnext, hfollows⟩ := r.next?_follows
    obtain ⟨answers, hcalls, hanswers⟩ := ih after
    refine ⟨answer :: answers, ?_, ?_⟩
    · rw [calls?, hnext]
      simp only [Option.bind_eq_bind, Option.bind_some, hcalls]
      rfl
    · unfold Follows at hfollows
      rw [VramCursor.calls, List.map_cons, hanswers]
      cases hcursor : r.cursor.next? with
      | none =>
        rw [hcursor] at hfollows
        obtain ⟨rfl, rfl⟩ := hfollows
        rfl
      | some named =>
        obtain ⟨pixel, c⟩ := named
        rw [hcursor] at hfollows
        obtain ⟨hpixel, rfl⟩ := hfollows
        rw [hpixel]

/-- **The cursor enumerates its rectangle.**  Whatever the registers hold, and wherever in the
rectangle the cursor begins: the count of pixels ahead is right, and the cursor is done exactly when
there are none; any number of calls is answered, without an error of the host, by the coordinates of
the pixels ahead, one after the other, and by none behind the last of them; and a rectangle no
larger than video memory has no pixel twice. -/
theorem enumerates (r : CursorRegisters) :
    let ahead := r.width.toNat * r.height.toNat - r.index.toNat
    r.cursor.remaining = ahead ∧ r.remaining? = some (UInt32.ofNat ahead) ∧ ahead < UInt32.size ∧
    r.isDone? = some r.cursor.isDone ∧ (r.cursor.isDone = true ↔ ahead = 0) ∧
    (∀ n, ∃ answers, calls? n r = some answers ∧
      answers.map (Option.map asPixel) = VramCursor.calls n r.cursor) ∧
    (∀ n, VramCursor.calls n r.cursor = (List.range n).map fun i =>
      let k := r.index.toNat + i
      if i < ahead then
        some ((r.x.toNat + k % r.width.toNat) % 1024, (r.y.toNat + k / r.width.toNat) % 512)
      else none) ∧
    (r.width ≤ 1024 → r.height ≤ 512 → (VramCursor.calls ahead r.cursor).Nodup) := by
  intro ahead
  have hsize : ahead < UInt32.size := Nat.lt_of_le_of_lt (Nat.sub_le _ _) r.total_lt
  refine ⟨rfl, r.remaining?_eq, hsize, r.isDone?_eq, beq_iff_eq, fun n => calls?_follows n r,
    fun n => VramCursor.calls_eq n r.cursor, ?_⟩
  intro hwidth hheight
  exact VramCursor.nodup_calls (c := r.cursor) (UInt16.le_iff_toNat_le.1 hwidth)
    (UInt16.le_iff_toNat_le.1 hheight)

/-- The corner of video memory, entered at the second of four pixels: the three pixels ahead lie
around both edges. -/
theorem enumerates_corner :
    let r : CursorRegisters := ⟨1023, 511, 2, 2, 1⟩
    calls? 5 r = some [some (0, 511), some (1023, 0), some (0, 0), none, none] ∧
    (r.width ≤ 1024 ∧ r.height ≤ 512) ∧ (VramCursor.calls 3 r.cursor).Nodup := by
  intro r
  have hwidth : r.width ≤ 1024 := by decide
  have hheight : r.height ≤ 512 := by decide
  obtain ⟨-, -, -, -, -, -, -, hnodup⟩ := r.enumerates
  exact ⟨by decide, ⟨hwidth, hheight⟩, hnodup hwidth hheight⟩

end CursorRegisters

end Gpu

end PlayStation

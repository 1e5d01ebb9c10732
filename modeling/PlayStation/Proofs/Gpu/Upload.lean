/-
  An UPLOAD, from its first word to its last.

  The upload command names a rectangle, and the data words behind it are its pixels, two to a word,
  low half first, row by row.  Whatever the schedule in which the words are written and taken, they
  arrive where they belong (`play_upload`).

  1. **The rectangle** (`uploadArea`), as two operand words name it.  Left edge and width are rounded
     up to even, so the words and the pixels come out even.

  2. **The chain of bites** (`chain_upload`): one bite takes the command, and every other takes one
     data word and places its two pixels.  Where a chain ends without a word left, every schedule
     of these words ends, given time (`play_of_chain`, `drained`).

  3. **The pixels** are then those of `placeAll`, each offered its value once.
-/
import PlayStation.Proofs.Gpu.Cursor
import PlayStation.Proofs.Gpu.Pacing
import PlayStation.Proofs.Gpu.Room

namespace PlayStation.Gpu

open Relation (ReflTransGen)

/-! ## The rectangle -/

/-- The rectangle that the operand words of an upload name. -/
def uploadArea (position size : UInt32) : VramCursor where
  x := (((position &&& 0x3FF) + 1) &&& 0x3FE).toNat
  y := ((position >>> 16) &&& 0x1FF).toNat
  width := ((((size &&& 0xFFFF) - 1) % 1024 + 1 + 1) / 2 * 2).toNat
  height := (((size >>> 16) - 1) % 512 + 1).toNat

/-- Rounded up to even, by a mask. -/
theorem roundUp_eq {n : Nat} (hn : n < 1024) : (n + 1) &&& 0x3FE = (n + 1) / 2 * 2 % 1024 := by
  have hall : ∀ n < 1024, (n + 1) &&& 0x3FE = (n + 1) / 2 * 2 % 1024 := by decide +kernel
  exact hall n hn

theorem uploadArea_eq (position size : UInt32) :
    uploadArea position size =
      { x := ((positionOf position).1 + 1) / 2 * 2 % 1024
        y := (positionOf position).2
        width := ((sizeOf size).1 + 1) / 2 * 2
        height := (sizeOf size).2 } := by
  have hx : (((position &&& 0x3FF) + 1) &&& 0x3FE).toNat =
      (position.toNat % 1024 + 1) / 2 * 2 % 1024 := by
    have hlow : (position &&& 0x3FF).toNat = position.toNat % 1024 :=
      Word.toNat_and_ones position (n := 10) rfl
    have hlt := Nat.mod_lt position.toNat (show 1024 > 0 by decide)
    rw [UInt32.toNat_and, UInt32.toNat_add, hlow]
    show (position.toNat % 1024 + 1) % 2 ^ 32 &&& 0x3FE = _
    rw [Nat.mod_eq_of_lt (by omega), roundUp_eq hlt]
  have hy : ((position >>> 16) &&& 0x1FF).toNat = position.toNat >>> 16 % 512 :=
    Word.toNat_and_ones (position >>> 16) (n := 9) rfl
  have hwidth : ((((size &&& 0xFFFF) - 1) % 1024 + 1 + 1) / 2 * 2).toNat =
      (extent (size.toNat % 65536) 1024 + 1) / 2 * 2 := by
    have hlow : (size &&& 0xFFFF).toNat = size.toNat % 65536 :=
      Word.toNat_and_ones size (n := 16) rfl
    simp only [UInt32.toNat_mul, UInt32.toNat_div, UInt32.toNat_add, UInt32.toNat_mod,
      UInt32.toNat_sub, hlow, UInt32.reduceToNat, extent]
    omega
  have hheight : (((size >>> 16) - 1) % 512 + 1).toNat =
      extent (size.toNat >>> 16 % 65536) 512 := by
    have hhigh : (size >>> 16).toNat = size.toNat / 65536 := by
      rw [UInt32.toNat_shiftRight]
      exact Nat.shiftRight_eq_div_pow _ 16
    have hlt := size.toNat_lt
    simp only [UInt32.toNat_add, UInt32.toNat_mod, UInt32.toNat_sub, hhigh, UInt32.reduceToNat,
      extent, Nat.shiftRight_eq_div_pow]
    omega
  rw [uploadArea, hx, hy, hwidth, hheight]
  rfl

/-- A size is never zero, and no larger than its limit. -/
theorem extent_bounds (raw : Nat) {limit : Nat} (h : 0 < limit) :
    0 < extent raw limit ∧ extent raw limit ≤ limit :=
  ⟨Nat.succ_pos _, Nat.mod_lt _ h⟩

/-- The rectangle is not empty, fits into video memory, and is made of whole data words. -/
theorem uploadArea_bounds (position size : UInt32) :
    0 < (uploadArea position size).total ∧ (uploadArea position size).width ≤ 1024 ∧
      (uploadArea position size).height ≤ 512 ∧ (uploadArea position size).total % 2 = 0 := by
  rw [uploadArea_eq]
  obtain ⟨hwidth, hwidth'⟩ := extent_bounds (Word.field size 0 16) (show 0 < 1024 by decide)
  obtain ⟨hheight, hheight'⟩ := extent_bounds (Word.field size 16 16) (show 0 < 512 by decide)
  refine ⟨Nat.mul_pos ?_ hheight, ?_, hheight', ?_⟩
  · show 0 < (extent (Word.field size 0 16) 1024 + 1) / 2 * 2
    omega
  · show (extent (Word.field size 0 16) 1024 + 1) / 2 * 2 ≤ 1024
    omega
  · show (extent (Word.field size 0 16) 1024 + 1) / 2 * 2 * extent (Word.field size 16 16) 512 % 2
      = 0
    rw [Nat.mul_right_comm]
    exact Nat.mul_mod_left _ 2

theorem startUpload_eq (g : Gpu) (position size : UInt32) :
    g.startUpload position size = { g with upload := some (uploadArea position size) } := by
  rw [uploadArea_eq]
  rfl

/-! ## Chains that end -/

/-- More words behind do not disturb a chain. -/
theorem Stream.chain_append {s t : Stream} (h : ReflTransGen Bites s t) (more : List UInt32) :
    ReflTransGen Bites (s.append more) (t.append more) :=
  h.lift (·.append more) fun _ _ hbite => next?_append hbite more

/-- Wherever a schedule came on a chain that ends, the rest of the chain lies ahead. -/
theorem chain_rest {g : Gpu} (hg : g.Sound) {moves : List Move} (hfits : g.fits moves = true)
    {t : Stream} (hchain : ReflTransGen Stream.Bites ((g.stream 0).append (Move.words moves)) t)
    (ht : t.words = []) :
    ReflTransGen Stream.Bites ((g.play moves).2.stream (g.play moves).1) t := by
  obtain ⟨-, hplay⟩ := chain_play moves g 0 hg hfits
  rw [Nat.zero_add] at hplay
  rcases ReflTransGen.total_of_right_unique Stream.rightUnique_bites hplay hchain with
    hahead | hbehind
  · exact hahead
  · rw [Stream.eq_of_stuck (Stream.next?_of_nil ht) hbehind]

/-- When no word is left, the end of the chain is reached. -/
theorem stream_play {g : Gpu} (hg : g.Sound) {moves : List Move} (hfits : g.fits moves = true)
    {t : Stream} (hchain : ReflTransGen Stream.Bites ((g.stream 0).append (Move.words moves)) t)
    (ht : t.words = []) (hend : (g.play moves).2.fifo.toList = []) :
    (g.play moves).2.stream (g.play moves).1 = t :=
  Stream.eq_of_stuck (Stream.next?_of_nil hend) (chain_rest hg hfits hchain ht)

/-- Cycles put no word into the FIFO. -/
theorem size_cycles_le (n : Nat) : ∀ g : Gpu,
    (g.play (List.replicate n .cycle)).2.fifo.size ≤ g.fifo.size := by
  induction n with
  | zero => exact fun g => Nat.le_refl _
  | succ n ih => exact fun g => Nat.le_trans (ih g.step.2) g.size_step_le

/-- Cycles lead down a chain, by one word at least each, up to where it is known to lead. -/
theorem size_play_le {t : Stream} (n : Nat) : ∀ (g : Gpu) (irqs : Nat), g.Sound →
    ReflTransGen Stream.Bites (g.stream irqs) t → g.fifo.size ≤ n + t.words.length →
    (g.play (List.replicate n .cycle)).2.fifo.size ≤ t.words.length := by
  induction n with
  | zero =>
    intro g irqs _ _ hsize
    rw [Nat.zero_add] at hsize
    exact hsize
  | succ n ih =>
    intro g irqs hg hchain hsize
    by_cases hthere : g.fifo.size ≤ t.words.length
    · exact Nat.le_trans (size_cycles_le _ g) hthere
    -- the chain leads on from here, and a step takes its next bite
    have hlength : (g.stream irqs).words.length = g.fifo.size := g.fifo.length_toList
    rcases hchain.cases_head with rfl | ⟨x, hbite, hrest⟩
    · omega
    · have hnext : (g.stream irqs).next? = some x := hbite
      have hstep : g.step.2.stream (irqs + g.step.1.irqs) = x := by
        rw [stream_step hg.quiet irqs, hnext]
        rfl
      have hshorter := Stream.length_next? hnext
      have hafter : x.words.length = g.step.2.fifo.size := by
        rw [← hstep]
        exact g.step.2.fifo.length_toList
      rw [← hstep] at hrest
      exact ih g.step.2 _ hg.step hrest (by omega)

/-- A chain that ends without a word left is gone through in as many cycles as words are waiting. -/
theorem drained {t : Stream} (ht : t.words = []) (n : Nat) (g : Gpu) (irqs : Nat) (hg : g.Sound)
    (hchain : ReflTransGen Stream.Bites (g.stream irqs) t) (hsize : g.fifo.size ≤ n) :
    (g.play (List.replicate n .cycle)).2.fifo.toList = [] := by
  have hle := size_play_le n g irqs hg hchain (by rw [ht]; exact hsize)
  rw [ht] at hle
  apply List.eq_nil_of_length_eq_zero
  rw [CommandFifo.length_toList]
  exact Nat.le_zero.1 hle

theorem play_append (moves more : List Move) : ∀ g : Gpu,
    (g.play (moves ++ more)).2 = ((g.play moves).2.play more).2 := by
  induction moves with
  | nil => exact fun g => rfl
  | cons move moves ih =>
    intro g
    cases move with
    | word w => exact ih (g.queue w)
    | cycle => exact ih g.step.2

/-! ## The chain of an upload -/

/-- The pixels of some data words, the low half of a word first. -/
def halfwords (data : List UInt32) : List UInt16 :=
  data.flatMap fun w : UInt32 => [w.toUInt16, (w >>> 16).toUInt16]

theorem length_halfwords (data : List UInt32) : (halfwords data).length = 2 * data.length := by
  induction data with
  | nil => rfl
  | cons w data ih =>
    show (halfwords data).length + 1 + 1 = 2 * (data.length + 1)
    omega

/-- The GPU with an upload that came as far as a cursor. -/
def receiving (g : Gpu) (cursor : VramCursor) (vram : Vram) : Gpu :=
  { g with vram, upload := if cursor.isDone then none else some cursor }

/-- **One data word** is two pixels. -/
theorem next?_receiving (g : Gpu) (hquiet : g.interruptRequested = false) (irqs : Nat)
    {c : VramCursor} {n : Nat} (hroom : n + 2 ≤ c.total) (v : Vram) (w : UInt32)
    (data : List UInt32) :
    Stream.next? ⟨g.receiving (c.moveTo n) v, w :: data, irqs⟩ =
      some ⟨g.receiving (c.moveTo (n + 2))
        (placeAll g.maskPolicy (halfwords [w]) (c.moveTo n) v).2, data, irqs⟩ := by
  have hintake : (g.receiving (c.moveTo n) v).intake = .upload (c.moveTo n) := by
    refine intake_eq_upload_iff.2 (if_neg ?_)
    rw [VramCursor.isDone_eq, decide_eq_true_iff]
    show ¬ c.total ≤ n
    omega
  have hcursor : (placeAll g.maskPolicy (halfwords [w]) (c.moveTo n) v).1 = c.moveTo (n + 2) :=
    cursor_placeAll _ _ n v hroom
  have hdigest : ∀ words, (g.receiving (c.moveTo n) v).digest w words (.upload (c.moveTo n)) =
      g.receiving (c.moveTo (n + 2)) (placeAll g.maskPolicy (halfwords [w]) (c.moveTo n) v).2 := by
    intro words
    rw [← hcursor]
    rfl
  have hwants : (g.receiving (c.moveTo n) v).intake.appetite w = 1 := by
    rw [hintake]
    rfl
  have hafter : (g.receiving (c.moveTo (n + 2))
      (placeAll g.maskPolicy (halfwords [w]) (c.moveTo n) v).2).interruptRequested = false := hquiet
  refine Stream.next?_of_digest [] hwants ?_ hafter data irqs
  rw [hintake]
  exact hdigest [w]

/-- **Data words** are the pixels of the rectangle, one after the other. -/
theorem chain_data (g : Gpu) (hquiet : g.interruptRequested = false) (irqs : Nat)
    {c : VramCursor} (data : List UInt32) : ∀ (n : Nat) (v : Vram),
    n + 2 * data.length ≤ c.total →
    ReflTransGen Stream.Bites ⟨g.receiving (c.moveTo n) v, data, irqs⟩
      ⟨g.receiving (c.moveTo (n + 2 * data.length))
        (placeAll g.maskPolicy (halfwords data) (c.moveTo n) v).2, [], irqs⟩ := by
  induction data with
  | nil => exact fun n v _ => .refl
  | cons w data ih =>
    intro n v hroom
    rw [List.length_cons] at hroom ⊢
    have hcursor : (placeAll g.maskPolicy (halfwords [w]) (c.moveTo n) v).1 = c.moveTo (n + 2) :=
      cursor_placeAll g.maskPolicy (halfwords [w]) n v (show n + 2 ≤ c.total by omega)
    have hpixels : placeAll g.maskPolicy (halfwords (w :: data)) (c.moveTo n) v =
        placeAll g.maskPolicy (halfwords data) (c.moveTo (n + 2))
          (placeAll g.maskPolicy (halfwords [w]) (c.moveTo n) v).2 := by
      rw [← hcursor]
      exact placeAll_append g.maskPolicy (halfwords [w]) (halfwords data) (c.moveTo n) v
    have hrest := ih (n + 2) (placeAll g.maskPolicy (halfwords [w]) (c.moveTo n) v).2 (by omega)
    rw [hpixels, show n + 2 * (data.length + 1) = n + 2 + 2 * data.length by omega]
    exact .head (next?_receiving g hquiet irqs (by omega) v w data) hrest

/-- **An upload** is its command and the data words behind it. -/
theorem chain_upload {g : Gpu} (hquiet : g.interruptRequested = false)
    (hintake : g.intake = .command) (irqs : Nat) {command position size : UInt32}
    (hcode : command >>> 24 = 0xA0) {data : List UInt32}
    (hroom : 2 * data.length ≤ (uploadArea position size).total) :
    ReflTransGen Stream.Bites ⟨g, command :: position :: size :: data, irqs⟩
      ⟨g.receiving ((uploadArea position size).moveTo (2 * data.length))
        (placeAll g.maskPolicy (halfwords data) (uploadArea position size) g.vram).2, [], irqs⟩ := by
  have hupload : Command.ofWord command = .upload := by
    rw [Command.ofWord, hcode]
    rfl
  have hbegun : g.startUpload position size =
      g.receiving ((uploadArea position size).moveTo 0) g.vram := by
    have hpos := (uploadArea_bounds position size).1
    have hmore : ((uploadArea position size).moveTo 0).isDone = false := by
      rw [VramCursor.isDone_eq, decide_eq_false_iff_not]
      exact Nat.not_le.2 hpos
    rw [startUpload_eq, receiving, hmore]
    rfl
  have hfirst : Stream.next? ⟨g, command :: position :: size :: data, irqs⟩ =
      some ⟨g.receiving ((uploadArea position size).moveTo 0) g.vram, data, irqs⟩ := by
    have hwants : g.intake.appetite command = 3 := by
      rw [hintake, Intake.appetite, hupload]
      rfl
    have hdigest : g.digest command [command, position, size] g.intake =
        g.receiving ((uploadArea position size).moveTo 0) g.vram := by
      rw [hintake, digest, hupload]
      exact hbegun
    exact Stream.next?_of_digest [position, size] hwants hdigest hquiet data irqs
  have hdata := chain_data g hquiet irqs (c := uploadArea position size) data 0 g.vram (by omega)
  rw [Nat.zero_add] at hdata
  exact .head hfirst hdata

/-! ## The result -/

section Result

variable {g : Gpu} {command position size : UInt32} {data : List UInt32} {moves : List Move}

/-- The words of an upload, in front of a GPU that waits for a command. -/
theorem chain_moves (hg : g.Sound) (hempty : g.fifo.toList = []) (hintake : g.intake = .command)
    (hcode : command >>> 24 = 0xA0)
    (hwords : Move.words moves = command :: position :: size :: data)
    (hroom : 2 * data.length ≤ (uploadArea position size).total) :
    ReflTransGen Stream.Bites ((g.stream 0).append (Move.words moves))
      ⟨g.core.receiving ((uploadArea position size).moveTo (2 * data.length))
        (placeAll g.maskPolicy (halfwords data) (uploadArea position size) g.vram).2, [], 0⟩ := by
  have hstream : (g.stream 0).append (Move.words moves) =
      ⟨g.core, command :: position :: size :: data, 0⟩ := by
    show Stream.mk g.core (g.fifo.toList ++ Move.words moves) 0 = _
    rw [hempty, List.nil_append, hwords]
  rw [hstream, ← maskPolicy_core]
  exact chain_upload (g := g.core) hg.quiet hintake 0 hcode hroom

/-- What is left of the GPU when the words of an upload are taken. -/
theorem core_play_upload (hg : g.Sound) (hempty : g.fifo.toList = [])
    (hintake : g.intake = .command) (hcode : command >>> 24 = 0xA0)
    (hwords : Move.words moves = command :: position :: size :: data)
    (hfits : g.fits moves = true) (hroom : 2 * data.length ≤ (uploadArea position size).total)
    (hend : (g.play moves).2.fifo.toList = []) :
    (g.play moves).2.core =
      g.core.receiving ((uploadArea position size).moveTo (2 * data.length))
        (placeAll g.maskPolicy (halfwords data) (uploadArea position size) g.vram).2 :=
  congrArg Stream.gpu (stream_play hg hfits
    (chain_moves hg hempty hintake hcode hwords hroom) rfl hend)

/-- **An upload arrives.**  From a state without waiting words in which words are commands, write an
upload command with no more data words than its rectangle takes, in any schedule that loses no word
on a full FIFO.  Given the cycles, all words are taken; and then each pixel of the rectangle that
there was data for was offered its halfword under the mask settings, all other pixels are as they
were, and words are commands again exactly if the rectangle is full. -/
theorem play_upload (hg : g.Sound) (hempty : g.fifo.toList = []) (hintake : g.intake = .command)
    (hcode : command >>> 24 = 0xA0)
    (hwords : Move.words moves = command :: position :: size :: data)
    (hfits : g.fits moves = true)
    (hroom : data.length ≤ (uploadArea position size).total / 2) :
    (g.play (moves ++ List.replicate fifoCapacity .cycle)).2.fifo.toList = [] ∧
      ((g.play moves).2.fifo.toList = [] →
        (∀ k (hk : k < (halfwords data).length) (x y : Nat),
          (uploadArea position size).coordinate k = (x, y) →
            (g.play moves).2.vram.get x y =
              g.maskPolicy.over (g.vram.get x y) (halfwords data)[k]) ∧
        (∀ x y, x < 1024 → y < 512 →
          (∀ k, k < (halfwords data).length → (uploadArea position size).coordinate k ≠ (x, y)) →
            (g.play moves).2.vram.get x y = g.vram.get x y) ∧
        ((g.play moves).2.intake = .command ↔
          data.length = (uploadArea position size).total / 2)) := by
  obtain ⟨-, hwidth, hheight, heven⟩ := uploadArea_bounds position size
  have hroom' : 2 * data.length ≤ (uploadArea position size).total := by omega
  have hpixels : 0 + (halfwords data).length ≤ (uploadArea position size).total := by
    rw [length_halfwords]
    omega
  constructor
  · -- what is waiting at the end of the schedule is taken in as many cycles
    have hsound := (chain_play moves g 0 hg hfits).1
    rw [play_append]
    exact drained rfl _ _ _ hsound
      (chain_rest hg hfits (chain_moves hg hempty hintake hcode hwords hroom') rfl)
      hsound.fifo.size
  intro hend
  have hcore := core_play_upload hg hempty hintake hcode hwords hfits hroom' hend
  have hvram : (g.play moves).2.vram =
      (placeAll g.maskPolicy (halfwords data) (uploadArea position size) g.vram).2 :=
    congrArg vram hcore
  refine ⟨?_, ?_, ?_⟩
  · intro k hk x y hplace
    have hx : (uploadArea position size).coordinate (0 + k) = (x % 1024, y % 512) := by
      rw [Nat.zero_add, ← VramCursor.coordinate_wrapped, hplace]
    rw [hvram]
    exact get_placeAll g.maskPolicy hwidth hheight (halfwords data) 0 g.vram hpixels k hk hx
  · intro x y hx hy hother
    rw [hvram]
    refine get_placeAll_of_ne g.maskPolicy (halfwords data) 0 g.vram hpixels fun k _ hk => ?_
    rw [Nat.mod_eq_of_lt hx, Nat.mod_eq_of_lt hy]
    exact hother k (by omega)
  · have hafter : (g.play moves).2.upload =
        if ((uploadArea position size).moveTo (2 * data.length)).isDone then none
        else some ((uploadArea position size).moveTo (2 * data.length)) :=
      congrArg upload hcore
    have hpolyline : (g.play moves).2.polyline = g.polyline := by
      have hsame := congrArg polyline hcore
      exact hsame
    have hdone : ((uploadArea position size).moveTo (2 * data.length)).isDone =
        decide ((uploadArea position size).total ≤ 2 * data.length) := VramCursor.isDone_eq _
    rw [intake_eq_command_iff, hpolyline, hafter, hdone]
    constructor
    · rintro ⟨h, -⟩
      by_cases hfull : (uploadArea position size).total ≤ 2 * data.length
      · omega
      · rw [decide_eq_false hfull] at h
        cases h
    · intro h
      rw [decide_eq_true (show (uploadArea position size).total ≤ 2 * data.length by omega)]
      exact ⟨rfl, (intake_eq_command_iff.1 hintake).2⟩

end Result

/-- A rectangle whose left edge is rounded up past the right edge of video memory, with one pixel in
it that the mask settings keep. -/
theorem play_upload_masked :
    let start : Gpu :=
      { vram := Vram.black.set 1 0 0x8001
        status := (Status.powerOn.put .setMask true).put .checkMask true }
    let moves : List Move :=
      [.word 0xA0000000, .word 0x000003FF, .cycle, .word 0x00010003, .word 0x22221111, .cycle,
        .cycle, .word 0x44443333, .cycle]
    let last := (start.play moves).2
    last.vram.get 0 0 = 0x9111 ∧ last.vram.get 1 0 = 0x8001 ∧ last.vram.get 2 0 = 0xB333 ∧
      last.vram.get 3 0 = 0xC444 ∧ last.vram.get 4 0 = 0 ∧ last.intake = .command := by
  intro start moves last
  have hsound : start.Sound := ⟨CommandFifo.valid_empty, rfl⟩
  have hold : ∀ x y, start.vram.get x y =
      if 1 % 1024 = x % 1024 ∧ 0 % 512 = y % 512 then 0x8001 else 0 := by
    intro x y
    refine (Vram.black.get_set 1 0 0x8001 x y).trans (if_congr Iff.rfl rfl ?_)
    exact Table.entry_replicate _ _
  have hcode : (0xA0000000 : UInt32) >>> 24 = 0xA0 := rfl
  have hwords : Move.words moves =
      0xA0000000 :: 0x000003FF :: 0x00010003 :: [0x22221111, 0x44443333] := rfl
  obtain ⟨-, hlast⟩ :=
    play_upload hsound rfl rfl hcode hwords (by decide +kernel) (by decide +kernel)
  obtain ⟨hinside, houtside, hcommand⟩ := hlast (by decide +kernel)
  refine ⟨?_, ?_, ?_, ?_, ?_, hcommand.2 (by decide +kernel)⟩
  · rw [hinside 0 (by decide) 0 0 (by decide +kernel), hold]
    decide +kernel
  · rw [hinside 1 (by decide) 1 0 (by decide +kernel), hold]
    decide +kernel
  · rw [hinside 2 (by decide) 2 0 (by decide +kernel), hold]
    decide +kernel
  · rw [hinside 3 (by decide) 3 0 (by decide +kernel), hold]
    decide +kernel
  · rw [houtside 4 0 (by decide) (by decide) (by decide +kernel), hold]
    rfl

end PlayStation.Gpu

/-
  Drawing attributes READ BACK.

  Four GP0 commands write attributes that GP1 can latch for reading: the texture window, the two
  corners of the drawing area, and the drawing offset.  Each keeps the bits of its own layout, and
  in that layout it is read.

  1. **Layouts**: a word that is taken apart and put together again has lost the bits that mean
     nothing, and no others (`TextureWindow.toWord_ofWord`, `DrawingArea.topLeftWord_setTopLeft`,
     `Vertex.toOffsetWord_ofOffsetWord`).  The offset goes through signed numbers on the way.

  2. **One command** (`value_write`): what E1 to E6 make of an attribute.  The two corners share a
     record, and neither command touches the other's half.

  3. **Many commands** are a bite each off the stream of words (`chain_attributes`), and those that
     write something else leave an attribute alone (`value_writeAll`).

  4. So an attribute **reads back**, whatever the schedule (`play_readBack`).
-/
import PlayStation.Gpu.Control
import PlayStation.Proofs.Gpu.Layout
import PlayStation.Proofs.Gpu.Upload

namespace PlayStation.Gpu

open Relation (ReflTransGen)

/-! ## Layouts -/

/-- What is put together to the low bits of a word is the word under their mask. -/
theorem ofNat_eq_and (width : Nat) {n : Nat} {w ones : UInt32} (hones : ones.toNat = 2 ^ width - 1)
    (hn : n = w.toNat % 2 ^ width) : UInt32.ofNat n = w &&& ones := by
  have hlt : n < UInt32.size := Nat.lt_of_le_of_lt (hn ▸ Nat.mod_le _ _) w.toNat_lt
  apply UInt32.toNat_inj.1
  rw [UInt32.toNat_ofNat_of_lt' hlt, UInt32.toNat_and, hones, Nat.and_two_pow_sub_one_eq_mod, hn]

theorem TextureWindow.toWord_ofWord (w : UInt32) : (ofWord w).toWord = w &&& 0xFFFFF := by
  refine ofNat_eq_and 20 rfl ?_
  simp only [ofWord, field_eq]
  omega

theorem DrawingArea.topLeftWord_setTopLeft (a : DrawingArea) (w : UInt32) :
    (a.setTopLeft w).topLeftWord = w &&& 0x7FFFF := by
  refine ofNat_eq_and 19 rfl ?_
  simp only [setTopLeft, field_eq]
  omega

theorem DrawingArea.bottomRightWord_setBottomRight (a : DrawingArea) (w : UInt32) :
    (a.setBottomRight w).bottomRightWord = w &&& 0x7FFFF := by
  refine ofNat_eq_and 19 rfl ?_
  simp only [setBottomRight, field_eq]
  omega

/-- The sign is spread over the number and cut off again. -/
theorem signed11_emod (w : UInt32) (start : Nat) :
    ((signed11 w start).toInt % 2048).toNat = Word.field w start 11 := by
  have hfield : Word.field w start 11 < 2048 := Nat.mod_lt _ (by decide)
  have hlow := Int.le_bmod (x := Word.field w start 11) (m := 2048) (by decide)
  have hhigh := Int.bmod_lt (x := Word.field w start 11) (m := 2048) (by decide)
  have hfits : (signed11 w start).toInt = Int.bmod (Word.field w start 11) 2048 :=
    Int16.toInt_ofInt_of_le (by omega) (by omega)
  have hsame : Int.bmod (Word.field w start 11) 2048 % (2048 : Nat) =
      Word.field w start 11 % (2048 : Nat) := Int.bmod_emod
  rw [hfits]
  omega

theorem Vertex.toOffsetWord_ofOffsetWord (w : UInt32) :
    (ofOffsetWord w).toOffsetWord = w &&& 0x3FFFFF := by
  refine ofNat_eq_and 22 rfl ?_
  simp only [ofOffsetWord, signed11_emod, field_eq]
  omega

/-! ## Attributes -/

/-- A drawing attribute that can be read back. -/
inductive Attribute where
  | textureWindow
  | areaTopLeft
  | areaBottomRight
  | drawingOffset
deriving DecidableEq, Repr

namespace Attribute

/-- The command byte that writes it. -/
def code : Attribute → UInt32
  | .textureWindow => 0xE2
  | .areaTopLeft => 0xE3
  | .areaBottomRight => 0xE4
  | .drawingOffset => 0xE5

/-- The number that it is latched under. -/
def index : Attribute → Nat
  | .textureWindow => 2
  | .areaTopLeft => 3
  | .areaBottomRight => 4
  | .drawingOffset => 5

/-- The bits of its layout. -/
def mask : Attribute → UInt32
  | .textureWindow => 0xFFFFF
  | .areaTopLeft | .areaBottomRight => 0x7FFFF
  | .drawingOffset => 0x3FFFFF

/-- The command that writes it, with a parameter of 24 bits. -/
def command (a : Attribute) (parameter : UInt32) : UInt32 :=
  (parameter &&& (0xFFFFFF : UInt32)) ||| (a.code <<< (24 : UInt32))

/-- What it is, in its layout. -/
def value (a : Attribute) (g : Gpu) : UInt32 :=
  match a with
  | .textureWindow => g.textureWindow.toWord
  | .areaTopLeft => g.drawingArea.topLeftWord
  | .areaBottomRight => g.drawingArea.bottomRightWord
  | .drawingOffset => g.drawingOffset.toOffsetWord

variable (a : Attribute) (g : Gpu)

theorem info?_index : g.info? a.index = some (a.value g) := by cases a <;> rfl

theorem value_core : a.value g.core = a.value g := by cases a <;> rfl

theorem toNat_command (w : UInt32) :
    (a.command w).toNat = w.toNat % 0x1000000 + a.code.toNat * 0x1000000 := by
  have hlow : (w &&& 0xFFFFFF).toNat = w.toNat % 0x1000000 := Word.toNat_and_ones w (n := 24) rfl
  have hlt : (w &&& 0xFFFFFF).toNat < 0x1000000 := hlow ▸ Nat.mod_lt _ (by decide)
  have hfits : a.code.toNat * 0x1000000 < UInt32.size := by cases a <;> decide
  have hplace : 1 <<< (24 : UInt32).toNat = 0x1000000 := rfl
  rw [command, Word.toNat_or_shiftLeft (by decide) hplace hlt hfits, hlow]

theorem command_shiftRight (w : UInt32) : a.command w >>> 24 = a.code := by
  apply UInt32.toNat_inj.1
  rw [UInt32.toNat_shiftRight, toNat_command]
  show _ >>> 24 = _
  rw [Nat.shiftRight_eq_div_pow]
  omega

/-- No bit of a layout lies in the command byte. -/
theorem command_and_mask (w : UInt32) : a.command w &&& a.mask = w &&& a.mask := by
  obtain ⟨width, hmask, hwidth⟩ : ∃ width, a.mask.toNat = 2 ^ width - 1 ∧ width ≤ 24 := by
    cases a with
    | textureWindow => exact ⟨20, rfl, by decide⟩
    | areaTopLeft | areaBottomRight => exact ⟨19, rfl, by decide⟩
    | drawingOffset => exact ⟨22, rfl, by decide⟩
  have hdvd : 2 ^ width ∣ 0x1000000 := Nat.pow_dvd_pow 2 hwidth
  apply UInt32.toNat_inj.1
  rw [UInt32.toNat_and, UInt32.toNat_and, hmask, Nat.and_two_pow_sub_one_eq_mod,
    Nat.and_two_pow_sub_one_eq_mod, toNat_command, Nat.add_mod, Nat.mod_mod_of_dvd _ hdvd,
    Nat.mod_eq_zero_of_dvd (Nat.dvd_mul_left_of_dvd hdvd _), Nat.add_zero, Nat.mod_mod]

end Attribute

/-! ## One command -/

/-- A command word of a drawing attribute, readable or not: E1 to E6. -/
def WritesAttribute (v : UInt32) : Prop :=
  (0xE1 : UInt32) ≤ v >>> 24 ∧ v >>> 24 ≤ (0xE6 : UInt32)

/-- The GPU behind the command that a word is. -/
def write (g : Gpu) (v : UInt32) : Gpu := g.execute (Command.ofWord v) [v]

section Write

variable {v : UInt32} (h : WritesAttribute v)

include h

theorem ofWord_writesAttribute :
    (v >>> 24 = 0xE1 ∧ Command.ofWord v = .drawMode) ∨
    (v >>> 24 = 0xE2 ∧ Command.ofWord v = .textureWindow) ∨
    (v >>> 24 = 0xE3 ∧ Command.ofWord v = .areaTopLeft) ∨
    (v >>> 24 = 0xE4 ∧ Command.ofWord v = .areaBottomRight) ∨
    (v >>> 24 = 0xE5 ∧ Command.ofWord v = .drawingOffset) ∨
    (v >>> 24 = 0xE6 ∧ Command.ofWord v = .maskSettings) := by
  obtain ⟨hlow, hhigh⟩ := h
  have hcode : v >>> 24 = 0xE1 ∨ v >>> 24 = 0xE2 ∨ v >>> 24 = 0xE3 ∨ v >>> 24 = 0xE4 ∨
      v >>> 24 = 0xE5 ∨ v >>> 24 = 0xE6 := by
    simp only [← UInt32.toNat_inj, UInt32.le_iff_toNat_le] at hlow hhigh ⊢
    generalize (v >>> 24).toNat = code at hlow hhigh ⊢
    simp only [UInt32.reduceToNat] at hlow hhigh ⊢
    omega
  rcases hcode with hcode | hcode | hcode | hcode | hcode | hcode <;>
    simp +decide [Command.ofWord, hcode]

/-- Such a command is one word. -/
theorem length_writesAttribute : (Command.ofWord v).length = 1 := by
  rcases ofWord_writesAttribute h with ⟨-, hc⟩ | ⟨-, hc⟩ | ⟨-, hc⟩ | ⟨-, hc⟩ | ⟨-, hc⟩ | ⟨-, hc⟩ <;>
    rw [hc] <;> rfl

variable (g : Gpu)

/-- **All that such a command does.** -/
theorem write_cases :
    (v >>> 24 = 0xE1 ∧ g.write v = g.setDrawMode v) ∨
    (v >>> 24 = 0xE2 ∧ g.write v = { g with textureWindow := .ofWord v }) ∨
    (v >>> 24 = 0xE3 ∧ g.write v = { g with drawingArea := g.drawingArea.setTopLeft v }) ∨
    (v >>> 24 = 0xE4 ∧ g.write v = { g with drawingArea := g.drawingArea.setBottomRight v }) ∨
    (v >>> 24 = 0xE5 ∧ g.write v = { g with drawingOffset := .ofOffsetWord v }) ∨
    (v >>> 24 = 0xE6 ∧ g.write v = g.setMaskSettings v) := by
  unfold write
  rcases ofWord_writesAttribute h with ⟨hv, hc⟩ | ⟨hv, hc⟩ | ⟨hv, hc⟩ | ⟨hv, hc⟩ | ⟨hv, hc⟩ |
    ⟨hv, hc⟩
  · exact .inl ⟨hv, by rw [hc]; rfl⟩
  · exact .inr (.inl ⟨hv, by rw [hc]; rfl⟩)
  · exact .inr (.inr (.inl ⟨hv, by rw [hc]; rfl⟩))
  · exact .inr (.inr (.inr (.inl ⟨hv, by rw [hc]; rfl⟩)))
  · exact .inr (.inr (.inr (.inr (.inl ⟨hv, by rw [hc]; rfl⟩))))
  · exact .inr (.inr (.inr (.inr (.inr ⟨hv, by rw [hc]; rfl⟩))))

/-- **What a command makes of an attribute**: the bits of its layout if it is the one that writes it,
and nothing otherwise. -/
theorem value_write (a : Attribute) :
    a.value (g.write v) = if v >>> 24 = a.code then v &&& a.mask else a.value g := by
  rcases g.write_cases h with ⟨hv, hw⟩ | ⟨hv, hw⟩ | ⟨hv, hw⟩ | ⟨hv, hw⟩ | ⟨hv, hw⟩ | ⟨hv, hw⟩
  all_goals rw [hv, hw]
  all_goals cases a
  -- the attribute that is written
  case inr.inl.textureWindow => exact TextureWindow.toWord_ofWord v
  case inr.inr.inl.areaTopLeft => exact g.drawingArea.topLeftWord_setTopLeft v
  case inr.inr.inr.inl.areaBottomRight => exact g.drawingArea.bottomRightWord_setBottomRight v
  case inr.inr.inr.inr.inl.drawingOffset => exact Vertex.toOffsetWord_ofOffsetWord v
  -- the others
  all_goals
    refine .symm ((if_neg ?_).trans ?_)
    · decide
    · simp only [Attribute.value, setDrawMode, setMaskSettings, DrawingArea.topLeftWord,
        DrawingArea.bottomRightWord, DrawingArea.setTopLeft, DrawingArea.setBottomRight]

/-- Nothing begins with such a command, and nothing is asked for. -/
theorem write_frame :
    (g.write v).upload = g.upload ∧ (g.write v).polyline = g.polyline ∧
      (g.write v).download = g.download ∧
      (g.write v).interruptRequested = g.interruptRequested := by
  rcases g.write_cases h with ⟨-, hw⟩ | ⟨-, hw⟩ | ⟨-, hw⟩ | ⟨-, hw⟩ | ⟨-, hw⟩ | ⟨-, hw⟩ <;>
    rw [hw] <;> exact ⟨rfl, rfl, rfl, rfl⟩

theorem intake_write : (g.write v).intake = g.intake := by
  obtain ⟨hupload, hpolyline, -⟩ := g.write_frame h
  rw [intake, intake, hupload, hpolyline]

end Write

/-! ## Many commands -/

/-- The GPU behind the commands that some words are. -/
def writeAll (g : Gpu) (words : List UInt32) : Gpu := words.foldl write g

section WriteAll

variable {words : List UInt32} (h : ∀ v ∈ words, WritesAttribute v)

include h

theorem download_writeAll : ∀ g : Gpu, (g.writeAll words).download = g.download := by
  induction words with
  | nil => exact fun g => rfl
  | cons v words ih =>
    intro g
    obtain ⟨hfirst, hrest⟩ := List.forall_mem_cons.1 h
    obtain ⟨-, -, hdownload, -⟩ := g.write_frame hfirst
    exact (ih hrest (g.write v)).trans hdownload

/-- **Commands that write something else** leave an attribute alone. -/
theorem value_writeAll {a : Attribute} (hother : ∀ v ∈ words, v >>> 24 ≠ a.code) : ∀ g : Gpu,
    a.value (g.writeAll words) = a.value g := by
  induction words with
  | nil => exact fun g => rfl
  | cons v words ih =>
    intro g
    obtain ⟨hfirst, hrest⟩ := List.forall_mem_cons.1 h
    obtain ⟨hne, hothers⟩ := List.forall_mem_cons.1 hother
    have hvalue := g.value_write hfirst a
    rw [if_neg hne] at hvalue
    exact (ih hrest hothers (g.write v)).trans hvalue

/-- **Each is a bite** of one word. -/
theorem chain_attributes (irqs : Nat) : ∀ g : Gpu, g.interruptRequested = false →
    g.intake = .command →
    ReflTransGen Stream.Bites ⟨g, words, irqs⟩ ⟨g.writeAll words, [], irqs⟩ := by
  induction words with
  | nil => exact fun g _ _ => .refl
  | cons v words ih =>
    intro g hquiet hintake
    obtain ⟨hfirst, hrest⟩ := List.forall_mem_cons.1 h
    obtain ⟨-, -, -, hquiet'⟩ := g.write_frame hfirst
    have hintake' := g.intake_write hfirst
    have hwants : g.intake.appetite v = 1 := by
      rw [hintake]
      exact length_writesAttribute hfirst
    have hdigest : g.digest v [v] g.intake = g.write v := by
      rw [hintake]
      rfl
    have hbite : Stream.next? ⟨g, [v] ++ words, irqs⟩ = some ⟨g.write v, words, irqs⟩ :=
      Stream.next?_of_digest [] hwants hdigest (hquiet'.trans hquiet) words irqs
    exact .head hbite (ih hrest (g.write v) (hquiet'.trans hquiet) (hintake'.trans hintake))

end WriteAll

/-! ## Reading -/

/-- The words 10 to 1F latch what their low three bits name. -/
theorem control_latch {v : UInt32} (h : Word.field v 24 8 / 16 = 1) (g : Gpu) :
    g.control v = g.latchInfo (Word.field v 0 3) := by
  unfold control
  split
  case h_11 => exact if_pos h
  all_goals
    next hcode =>
    rw [hcode] at h
    cases h

/-- What is latched is read, unless a download answers. -/
theorem readWord_control {g : Gpu} (hdownload : g.download = none) (a : Attribute) {v : UInt32}
    (hcode : Word.field v 24 8 / 16 = 1) (hindex : Word.field v 0 3 = a.index) :
    (g.control v).readWord.1 = a.value g := by
  rw [control_latch hcode, hindex, latchInfo, a.info?_index]
  simp only [readWord, hdownload]

section Result

variable {g : Gpu} {others : List UInt32} {moves : List Move}

/-- **An attribute reads back.**  To a GPU without waiting words, without an upload, a polyline or a
download, write the command of an attribute and behind it any commands of other attributes, in any
schedule that loses no word on a full FIFO.  Given the cycles, all of them are taken; and then a GP1
word that names the attribute makes the next read return the parameter, with the bits of the
layout. -/
theorem play_readBack (hg : g.Sound) (hempty : g.fifo.toList = []) (hintake : g.intake = .command)
    (hdownload : g.download = none) (a : Attribute) (w : UInt32)
    (hothers : ∀ v ∈ others, WritesAttribute v ∧ v >>> 24 ≠ a.code)
    (hwords : Move.words moves = a.command w :: others) (hfits : g.fits moves = true) :
    (g.play (moves ++ List.replicate fifoCapacity .cycle)).2.fifo.toList = [] ∧
    ((g.play moves).2.fifo.toList = [] →
      ∀ v : UInt32, Word.field v 24 8 / 16 = 1 → Word.field v 0 3 = a.index →
        ((g.play moves).2.control v).readWord.1 = w &&& a.mask) := by
  have hcommand : WritesAttribute (a.command w) := by
    unfold WritesAttribute
    rw [a.command_shiftRight]
    cases a <;> decide
  have hall : ∀ v ∈ a.command w :: others, WritesAttribute v :=
    List.forall_mem_cons.2 ⟨hcommand, fun v hv => (hothers v hv).1⟩
  have hstream : (g.stream 0).append (Move.words moves) = ⟨g.core, a.command w :: others, 0⟩ := by
    rw [stream, hempty, hwords]
    rfl
  have hchain : ReflTransGen Stream.Bites ((g.stream 0).append (Move.words moves))
      ⟨g.core.writeAll (a.command w :: others), [], 0⟩ := by
    rw [hstream]
    exact chain_attributes hall 0 g.core hg.quiet hintake
  constructor
  · rw [play_append]
    obtain ⟨hsound, -⟩ := chain_play moves g 0 hg hfits
    exact drained rfl fifoCapacity _ _ hsound (chain_rest hg hfits hchain rfl) hsound.fifo.size
  · intro hend v hcode hindex
    have hcore : (g.play moves).2.core = g.core.writeAll (a.command w :: others) :=
      congrArg Stream.gpu (stream_play hg hfits hchain rfl hend)
    have hnone : (g.play moves).2.download = none :=
      calc (g.play moves).2.core.download
          = (g.core.writeAll (a.command w :: others)).download := congrArg Gpu.download hcore
        _ = g.core.download := download_writeAll hall g.core
        _ = none := hdownload
    have hvalue := g.core.value_write hcommand a
    rw [if_pos (a.command_shiftRight w)] at hvalue
    calc ((g.play moves).2.control v).readWord.1
        = a.value (g.play moves).2.core := by
          rw [readWord_control hnone a hcode hindex, a.value_core]
      _ = a.value ((g.core.write (a.command w)).writeAll others) := congrArg a.value hcore
      _ = a.value (g.core.write (a.command w)) :=
          value_writeAll (fun v hv => (hothers v hv).1) (fun v hv => (hothers v hv).2) _
      _ = w &&& a.mask := hvalue.trans (a.command_and_mask w)

end Result

/-- A drawing offset of (-1, -1024) with all bits around it set, behind it the window and both
corners.  Only two of the words are taken one by one. -/
theorem play_readBack_negative :
    let start : Gpu := { renderer := .recorder }
    let moves : List Move :=
      [.word 0xE5E007FF, .word 0xE2FFFFFF, .cycle, .cycle, .word 0xE3012345, .word 0xE4FEDCBA,
        .word 0xE6000003, .cycle, .cycle, .cycle]
    let after := (start.play moves).2
    after.fifo.toList = [] ∧ after.drawingOffset = ⟨-1, -1024⟩ ∧
      (after.control 0x10000005).readWord.1 = 0x2007FF := by
  intro start moves after
  have hsound : start.Sound := ⟨CommandFifo.valid_empty, rfl⟩
  have hothers : ∀ v ∈ ([0xE2FFFFFF, 0xE3012345, 0xE4FEDCBA, 0xE6000003] : List UInt32),
      WritesAttribute v ∧ v >>> 24 ≠ Attribute.drawingOffset.code := by
    intro v hv
    simp only [List.mem_cons, List.not_mem_nil, or_false] at hv
    rcases hv with rfl | rfl | rfl | rfl <;> exact ⟨⟨by decide, by decide⟩, by decide⟩
  have hwords : Move.words moves = Attribute.drawingOffset.command 0xFFE007FF ::
      [0xE2FFFFFF, 0xE3012345, 0xE4FEDCBA, 0xE6000003] := rfl
  obtain ⟨-, hread⟩ := play_readBack hsound rfl rfl rfl .drawingOffset 0xFFE007FF hothers hwords
    (by decide +kernel)
  have hend : after.fifo.toList = [] := by decide +kernel
  exact ⟨hend, by decide +kernel, hread hend 0x10000005 rfl rfl⟩

end PlayStation.Gpu

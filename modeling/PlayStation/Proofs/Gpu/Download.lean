/-
  A DOWNLOAD of what was uploaded.

  A download is paced by reads: each takes two pixels, and the status word says until the last of
  them that there are more.  What an upload put into a rectangle comes out of it again, word by word
  (`poll_download`).

  1. **The chain of bites** (`chain_transfer`) ends where the upload is done, the download has begun,
     and no word is left.  So cycles change nothing that reads can see (`Sending.step`).

  2. **One read** (`readWord_sending`) answers with the next two pixels.  These are the two halves of
     a data word, since the upload offered each pixel of the rectangle one halfword, and without
     mask settings it took them.

  3. **All reads** (`poll_sending`), by induction: as many data words are gone as there were reads.
-/
import Mathlib.Data.List.GetD
import PlayStation.Proofs.Gpu.DmaRequest
import PlayStation.Proofs.Gpu.Upload

namespace PlayStation.Gpu

open Relation (ReflTransGen)
open Word (bit)

/-! ## The rectangle -/

/-- The rectangle that the operand words of a download name. -/
def downloadArea (position size : UInt32) : VramCursor where
  x := (positionOf position).1
  y := (positionOf position).2
  width := (sizeOf size).1
  height := (sizeOf size).2

/-- Where nothing has to be rounded, an upload and a download name the same rectangle. -/
theorem uploadArea_of_even {position size : UInt32} (hx : (positionOf position).1 % 2 = 0)
    (hwidth : (sizeOf size).1 % 2 = 0) : uploadArea position size = downloadArea position size := by
  have hlt : (positionOf position).1 < 1024 := Nat.mod_lt _ (by decide)
  have hx' : ((positionOf position).1 + 1) / 2 * 2 % 1024 = (positionOf position).1 := by omega
  have hwidth' : ((sizeOf size).1 + 1) / 2 * 2 = (sizeOf size).1 := by omega
  rw [uploadArea_eq, hx', hwidth']
  rfl

/-! ## Reads -/

/-- What software can do with a download. -/
inductive Poll where
  /-- A word is read. -/
  | read
  /-- The GPU takes a step. -/
  | cycle
deriving DecidableEq, Repr

/-- Goes through reads and cycles, and collects what the reads return. -/
def poll (g : Gpu) : List Poll → List UInt32 × Gpu
  | [] => ([], g)
  | .read :: polls => (g.readWord.1 :: (g.readWord.2.poll polls).1, (g.readWord.2.poll polls).2)
  | .cycle :: polls => g.step.2.poll polls

/-- What read `n` returns of some data: behind the last word, the last word again. -/
def sent (data : List UInt32) (n : Nat) : UInt32 := data.getD n (data.getLastD 0)

theorem sent_of_lt {data : List UInt32} {n : Nat} (hn : n < data.length) :
    sent data n = data[n] := by
  rw [sent, List.getD_eq_getElem _ _ hn]

theorem sent_of_le {data : List UInt32} {n : Nat} (hn : data.length ≤ n) :
    sent data n = data.getLastD 0 := by
  rw [sent, List.getD_eq_default _ _ hn]

/-- The last word is what is sent behind it. -/
theorem sent_last {data : List UInt32} {n : Nat} (hn : n + 1 = data.length) :
    sent data (n + 1) = sent data n := by
  have hlt : n < data.length := by omega
  rw [sent_of_le (Nat.le_of_eq hn.symm), sent_of_lt hlt, List.getLastD_eq_getLast?,
    List.getLast?_eq_getElem?, ← hn, Nat.add_sub_cancel, List.getElem?_eq_getElem hlt]
  rfl

/-- A rectangle of video memory shows some data. -/
structure Shows (v : Vram) (c : VramCursor) (data : List UInt32) : Prop where
  total : c.total = 2 * data.length
  pixel : ∀ k (hk : k < (halfwords data).length),
    v.get (c.coordinate k).1 (c.coordinate k).2 = (halfwords data)[k]

/-- The GPU has sent `n` words of what a rectangle shows. -/
structure Sending (v : Vram) (c : VramCursor) (data : List UInt32) (n : Nat) (g : Gpu) : Prop where
  sound : g.Sound
  fifo : g.fifo.toList = []
  vram : g.vram = v
  download : g.download = if n < data.length then some (c.moveTo (2 * n)) else none
  ready : g.status.has .readyToSend = decide (n < data.length)
  latch : data.length ≤ n → g.readLatch = sent data n

/-- Whether there is more to send is not among the bits that are derived. -/
theorem bit_statusWord_ready (g : Gpu) : bit g.statusWord 27 = g.status.has .readyToSend := by
  simp only [statusWord, bit_put _ _ _ (n := 27) (by decide)]
  rfl

theorem ready_put_self (s : Status) (value : Bool) :
    (s.put .readyToSend value).has .readyToSend = value :=
  (bit_put s .readyToSend value (n := 27) (by decide)).trans (if_pos rfl)

theorem readyToSend_core (g : Gpu) :
    g.core.status.has .readyToSend = g.status.has .readyToSend :=
  g.status.has_fieldless .readyToSend (by decide)

/-- With no word waiting, a step changes nothing but what time changes. -/
theorem core_step {g : Gpu} (hg : g.Sound) (hempty : g.fifo.toList = []) :
    g.step.2.core = g.core ∧ g.step.2.fifo.toList = [] := by
  have hstep := stream_step hg.quiet 0
  have hwords : (g.stream 0).words = [] := hempty
  rw [Stream.next?_of_nil hwords] at hstep
  exact ⟨congrArg Stream.gpu hstep, (congrArg Stream.words hstep).trans hempty⟩

theorem Sending.step {v : Vram} {c : VramCursor} {data : List UInt32} {n : Nat} {g : Gpu}
    (h : Sending v c data n g) : Sending v c data n g.step.2 := by
  obtain ⟨hcore, hfifo⟩ := core_step h.sound h.fifo
  have hready : g.step.2.status.has .readyToSend = g.status.has .readyToSend := by
    rw [← readyToSend_core, hcore, readyToSend_core]
  exact
    { sound := h.sound.step
      fifo := hfifo
      vram := (congrArg Gpu.vram hcore).trans h.vram
      download := (congrArg Gpu.download hcore).trans h.download
      ready := hready.trans h.ready
      latch := fun hn => (congrArg Gpu.readLatch hcore).trans (h.latch hn) }

/-! ## One read -/

/-- The two halves of a word, put together again. -/
theorem halves_eq (w : UInt32) :
    w.toUInt16.toUInt32 ||| ((w >>> 16).toUInt16.toUInt32 <<< 16) = w := by
  have hlow : w.toUInt16.toUInt32.toNat = w.toNat % 65536 := by
    rw [UInt16.toNat_toUInt32, UInt32.toNat_toUInt16]
  have hhigh : (w >>> 16).toUInt16.toUInt32.toNat = w.toNat / 65536 := by
    have hlt := w.toNat_lt
    rw [UInt16.toNat_toUInt32, UInt32.toNat_toUInt16, UInt32.toNat_shiftRight,
      Nat.shiftRight_eq_div_pow]
    show w.toNat / 65536 % 65536 = _
    omega
  have hlt := w.toNat_lt
  have hroom : w.toUInt16.toUInt32.toNat < 65536 := by omega
  have hfits : (w >>> 16).toUInt16.toUInt32.toNat * 65536 < UInt32.size := by
    show _ < 4294967296
    omega
  have hweight : 1 <<< (16 : UInt32).toNat = 65536 := rfl
  rw [← UInt32.toNat_inj, Word.toNat_or_shiftLeft (by decide) hweight hroom hfits, hlow, hhigh]
  omega

/-- Each data word is two pixels. -/
theorem getElem_halfwords (data : List UInt32) : ∀ (n : Nat) (hn : n < data.length)
    (hlow : 2 * n < (halfwords data).length) (hhigh : 2 * n + 1 < (halfwords data).length),
    (halfwords data)[2 * n] = data[n].toUInt16 ∧
      (halfwords data)[2 * n + 1] = (data[n] >>> 16).toUInt16 := by
  induction data with
  | nil => exact fun n hn => absurd hn (Nat.not_lt_zero n)
  | cons w data ih =>
    intro n hn hlow hhigh
    cases n with
    | zero => exact ⟨rfl, rfl⟩
    | succ n =>
      have hlength := length_halfwords data
      rw [List.length_cons] at hn
      exact ih n (by omega) (by omega) (by omega)

section Read

variable {v : Vram} {c : VramCursor} {data : List UInt32} {n : Nat} {g : Gpu}

theorem nextPixel_of_lt {k : Nat} (hk : k < c.total) :
    g.nextPixel (c.moveTo k) =
      (g.vram.get (c.coordinate k).1 (c.coordinate k).2, c.moveTo (k + 1)) := by
  have hnext : (c.moveTo k).next? = some (c.coordinate k, c.moveTo (k + 1)) :=
    (c.moveTo k).next?_eq.trans (if_pos hk)
  rw [nextPixel, hnext]

/-- **A read returns the next data word**, or the last one again. -/
theorem readWord_sending (hshows : Shows v c data) (h : Sending v c data n g) :
    g.readWord.1 = sent data n ∧ Sending v c data (n + 1) g.readWord.2 := by
  obtain ⟨hfifo, hquiet⟩ := g.readWord_frame
  by_cases hn : n < data.length
  · have hdownload : g.download = some (c.moveTo (2 * n)) := h.download.trans (if_pos hn)
    have hlength := length_halfwords data
    have htotal := hshows.total
    obtain ⟨hlow, hhigh⟩ := getElem_halfwords data n hn (by omega) (by omega)
    have hfirst : g.nextPixel (c.moveTo (2 * n)) = (data[n].toUInt16, c.moveTo (2 * n + 1)) := by
      rw [nextPixel_of_lt (by omega), h.vram, hshows.pixel _ (by omega), hlow]
    have hsecond : g.nextPixel (c.moveTo (2 * n + 1)) =
        ((data[n] >>> 16).toUInt16, c.moveTo (2 * n + 2)) := by
      rw [nextPixel_of_lt (by omega), h.vram, hshows.pixel _ (by omega), hhigh]
    have hdone : (c.moveTo (2 * n + 2)).isDone = decide (data.length ≤ n + 1) := by
      rw [VramCursor.isDone_eq]
      exact decide_eq_decide.2 (show c.total ≤ 2 * n + 2 ↔ data.length ≤ n + 1 by omega)
    have hread : g.readWord =
        if data.length ≤ n + 1 then
          (data[n], { g with
            download := none
            status := g.status.put .readyToSend false
            readLatch := data[n] })
        else (data[n], { g with download := some (c.moveTo (2 * n + 2)), readLatch := data[n] }) := by
      rw [readWord, hdownload]
      simp only [hfirst, hsecond, hdone, halves_eq, decide_eq_true_eq]
    have hsound : g.readWord.2.Sound := h.sound.perform .read
    have hlist : g.readWord.2.fifo.toList = [] := by rw [hfifo, h.fifo]
    rw [hread] at hsound hlist ⊢
    by_cases hlast : data.length ≤ n + 1
    · rw [if_pos hlast] at hsound hlist ⊢
      have hflag := ready_put_self g.status false
      refine ⟨(sent_of_lt hn).symm, ⟨hsound, hlist, h.vram, (if_neg (by omega)).symm, ?_, ?_⟩⟩
      · rw [hflag, decide_eq_false (by omega)]
      · intro _
        rw [sent_last (by omega), sent_of_lt hn]
    · rw [if_neg hlast] at hsound hlist ⊢
      refine ⟨(sent_of_lt hn).symm, ⟨hsound, hlist, h.vram, (if_pos (by omega)).symm, ?_, ?_⟩⟩
      · show g.status.has .readyToSend = _
        rw [h.ready, decide_eq_true hn, decide_eq_true (by omega)]
      · intro hle
        omega
  · -- all words are sent, and the last one is still latched
    have hdownload : g.download = none := h.download.trans (if_neg hn)
    have hread : g.readWord = (g.readLatch, g) := by rw [readWord, hdownload]
    have hsame : sent data (n + 1) = sent data n := by
      rw [sent_of_le (by omega), sent_of_le (by omega)]
    rw [hread]
    refine ⟨h.latch (by omega), ⟨h.sound, h.fifo, h.vram, ?_, ?_, ?_⟩⟩
    · rw [hdownload, if_neg (by omega)]
    · rw [h.ready, decide_eq_false hn, decide_eq_false (by omega)]
    · intro _
      rw [hsame]
      exact h.latch (by omega)

/-! ## All reads -/

/-- **Reads return one data word after the other**, whenever they come. -/
theorem poll_sending (hshows : Shows v c data) (polls : List Poll) : ∀ (n : Nat) (g : Gpu),
    Sending v c data n g →
    (g.poll polls).1 = (List.range (polls.count .read)).map (fun i => sent data (n + i)) ∧
      Sending v c data (n + polls.count .read) (g.poll polls).2 := by
  induction polls with
  | nil => exact fun n g h => ⟨rfl, h⟩
  | cons p polls ih =>
    intro n g h
    cases p with
    | cycle =>
      rw [List.count_cons_of_ne (by decide)]
      exact ih n g.step.2 h.step
    | read =>
      obtain ⟨hword, hnext⟩ := readWord_sending hshows h
      obtain ⟨hwords, hlast⟩ := ih (n + 1) g.readWord.2 hnext
      rw [List.count_cons_self, List.range_succ_eq_map, List.map_cons, List.map_map]
      refine ⟨?_, ?_⟩
      · rw [poll, hword, hwords]
        refine congrArg (_ :: ·) (List.map_congr_left fun i _ => ?_)
        show sent data (n + 1 + i) = sent data (n + (i + 1))
        rw [Nat.add_assoc, Nat.add_comm 1]
      · rw [Nat.add_comm _ 1, ← Nat.add_assoc]
        exact hlast

end Read

/-! ## Upload and download -/

section Transfer

variable {g : Gpu} {upload download position size : UInt32} {data : List UInt32}
  {moves : List Move}

/-- What an upload without mask settings leaves in its rectangle. -/
theorem shows_placeAll (v : Vram)
    (hlength : (uploadArea position size).total = 2 * data.length) :
    Shows (placeAll ⟨false, false⟩ (halfwords data) (uploadArea position size) v).2
      (uploadArea position size) data := by
  obtain ⟨-, hwidth, hheight, -⟩ := uploadArea_bounds position size
  refine ⟨hlength, fun k hk => ?_⟩
  have hroom : 0 + (halfwords data).length ≤ (uploadArea position size).total := by
    rw [length_halfwords]
    omega
  have hplace : (uploadArea position size).coordinate (0 + k) =
      (((uploadArea position size).coordinate k).1 % 1024,
        ((uploadArea position size).coordinate k).2 % 512) := by
    rw [Nat.zero_add, VramCursor.coordinate_wrapped]
  exact get_placeAll ⟨false, false⟩ hwidth hheight (halfwords data) 0 v hroom k hk hplace

/-- **A download begins** with its command. -/
theorem next?_download {g : Gpu} (hquiet : g.interruptRequested = false)
    (hintake : g.intake = .command) (hdownload : download >>> 24 = 0xC0) (irqs : Nat) :
    Stream.next? ⟨g, [download, position, size], irqs⟩ =
      some ⟨g.startDownload position size, [], irqs⟩ := by
  have hcommand : Command.ofWord download = .download := by
    rw [Command.ofWord, hdownload]
    rfl
  have hwants : g.intake.appetite download = 3 := by
    rw [hintake, Intake.appetite, hcommand]
    rfl
  have hdigest : g.digest download [download, position, size] g.intake =
      g.startDownload position size := by
    rw [hintake, digest, hcommand]
    rfl
  exact Stream.next?_of_digest [position, size] hwants hdigest hquiet [] irqs

/-- The words of an upload and of a download behind it, in front of a GPU that waits for a
command. -/
theorem chain_transfer (hg : g.Sound) (hempty : g.fifo.toList = []) (hintake : g.intake = .command)
    (hupload : upload >>> 24 = 0xA0) (hdownload : download >>> 24 = 0xC0)
    (hlength : (uploadArea position size).total = 2 * data.length) {position' size' : UInt32}
    (hwords : Move.words moves =
      upload :: position :: size :: (data ++ [download, position', size'])) :
    ReflTransGen Stream.Bites ((g.stream 0).append (Move.words moves))
      ⟨(g.core.receiving ((uploadArea position size).moveTo (2 * data.length))
        (placeAll g.maskPolicy (halfwords data) (uploadArea position size) g.vram).2).startDownload
          position' size', [], 0⟩ := by
  have hstream : (g.stream 0).append (Move.words moves) =
      (Stream.mk g.core (upload :: position :: size :: data) 0).append
        [download, position', size'] := by
    show Stream.mk g.core (g.fifo.toList ++ Move.words moves) 0 = _
    rw [hempty, List.nil_append, hwords]
    rfl
  have hfull : ((uploadArea position size).moveTo (2 * data.length)).isDone = true := by
    rw [VramCursor.isDone_eq, decide_eq_true_iff]
    exact Nat.le_of_eq hlength
  have hcommand : ∀ vram, (g.core.receiving
      ((uploadArea position size).moveTo (2 * data.length)) vram).intake = .command := by
    intro vram
    exact intake_eq_command_iff.2 ⟨if_pos hfull, (intake_eq_command_iff.1 hintake).2⟩
  have hchain := Stream.chain_append (chain_upload (g := g.core) hg.quiet hintake 0 hupload
    (Nat.le_of_eq hlength.symm)) [download, position', size']
  rw [maskPolicy_core] at hchain
  rw [hstream]
  refine hchain.tail (next?_download ?_ (hcommand _) hdownload 0)
  exact hg.quiet

/-- **What was uploaded is downloaded.**  From a state without waiting words in which words are
commands and no mask settings are in force, write an upload of an even rectangle and a download of
the same one, in any schedule that loses no word on a full FIFO.  Given the cycles, all words are
taken; and then, whatever cycles lie between the reads, they return the data words in order and
behind them the last one again, bit 27 of the status word is set until the last data word is
read, and no pixel changes. -/
theorem poll_download (hg : Reachable g) (hempty : g.fifo.toList = [])
    (hintake : g.intake = .command) (hmask : g.maskPolicy = ⟨false, false⟩)
    (hupload : upload >>> 24 = 0xA0) (hdownload : download >>> 24 = 0xC0)
    {position' size' : UInt32} (hposition : positionOf position' = positionOf position)
    (hsize : sizeOf size' = sizeOf size) (hx : (positionOf position).1 % 2 = 0)
    (hwidth : (sizeOf size).1 % 2 = 0)
    (hlength : data.length = (sizeOf size).1 * (sizeOf size).2 / 2)
    (hwords : Move.words moves =
      upload :: position :: size :: (data ++ [download, position', size']))
    (hfits : g.fits moves = true) :
    (g.play (moves ++ List.replicate fifoCapacity .cycle)).2.fifo.toList = [] ∧
      ((g.play moves).2.fifo.toList = [] → ∀ polls : List Poll,
        ((g.play moves).2.poll polls).1 = (List.range (polls.count .read)).map (sent data) ∧
        bit ((g.play moves).2.poll polls).2.statusWord 27 =
          decide (polls.count .read < data.length) ∧
        ((g.play moves).2.poll polls).2.vram = (g.play moves).2.vram) := by
  have harea := uploadArea_of_even hx hwidth
  have hsame : downloadArea position' size' = uploadArea position size := by
    rw [harea, downloadArea, downloadArea, hposition, hsize]
  have htotal : (uploadArea position size).total = 2 * data.length := by
    have heven := (uploadArea_bounds position size).2.2.2
    have hproduct : (uploadArea position size).total = (sizeOf size).1 * (sizeOf size).2 := by
      rw [harea]
      rfl
    omega
  have hsound := (chain_play moves g 0 hg.sound hfits).1
  have hchain := chain_transfer hg.sound hempty hintake hupload hdownload htotal hwords
  constructor
  · rw [play_append]
    exact drained rfl _ _ _ hsound (chain_rest hg.sound hfits hchain rfl) hsound.fifo.size
  intro hend polls
  have hcore := congrArg Stream.gpu (stream_play hg.sound hfits hchain rfl hend)
  have hvram : (g.play moves).2.vram =
      (placeAll ⟨false, false⟩ (halfwords data) (uploadArea position size) g.vram).2 := by
    rw [← hmask]
    exact congrArg Gpu.vram hcore
  have hpos : 0 < data.length := by
    have := (uploadArea_bounds position size).1
    omega
  have hsending : Sending (g.play moves).2.vram (uploadArea position size) data 0
      (g.play moves).2 := by
    refine ⟨hsound, hend, rfl, ?_, ?_, fun hle => by omega⟩
    · rw [if_pos hpos, ← hsame]
      exact congrArg Gpu.download hcore
    · rw [decide_eq_true hpos, ← readyToSend_core]
      have hflag := congrArg (fun core : Gpu => core.status.has .readyToSend) hcore
      refine hflag.trans ?_
      exact (bit_put _ .readyToSend true (n := 27) (by decide)).trans (if_pos rfl)
  have hshows := shows_placeAll g.vram htotal
  rw [← hvram] at hshows
  obtain ⟨hwordsRead, hlast⟩ := poll_sending hshows polls 0 _ hsending
  rw [Nat.zero_add] at hlast
  refine ⟨?_, ?_, hlast.vram⟩
  · rw [hwordsRead]
    exact List.map_congr_left fun i _ => by rw [Nat.zero_add]
  · rw [bit_statusWord_ready, hlast.ready]

end Transfer

/-- A rectangle of four by two pixels over a corner of video memory, read once more than it has
words. -/
theorem poll_download_corner :
    let start : Gpu := {}
    let moves : List Move :=
      [.word 0xA0000000, .word 0x01FF03FE, .word 0x00020004, .cycle, .word 0x22221111,
        .word 0x44443333, .cycle, .word 0x66665555, .word 0x88887777, .cycle, .word 0xC0000000,
        .cycle, .cycle, .word 0x01FF03FE, .word 0x00020004, .cycle]
    let last := (start.play moves).2
    (last.poll [.read, .cycle, .read, .read, .cycle, .read, .read]).1 =
        [0x22221111, 0x44443333, 0x66665555, 0x88887777, 0x88887777] ∧
      bit (last.poll [.read, .cycle, .read, .read]).2.statusWord 27 = true ∧
      bit (last.poll [.read, .cycle, .read, .read, .cycle, .read]).2.statusWord 27 = false := by
  intro start moves last
  have hupload : (0xA0000000 : UInt32) >>> 24 = 0xA0 := rfl
  have hdownload : (0xC0000000 : UInt32) >>> 24 = 0xC0 := rfl
  have hposition : positionOf 0x01FF03FE = positionOf 0x01FF03FE := rfl
  have hsize : sizeOf 0x00020004 = sizeOf 0x00020004 := rfl
  have hwords : Move.words moves =
      0xA0000000 :: 0x01FF03FE :: 0x00020004 ::
        ([0x22221111, 0x44443333, 0x66665555, 0x88887777] ++
          [0xC0000000, 0x01FF03FE, 0x00020004]) := rfl
  obtain ⟨-, hlast⟩ := poll_download .powerOn rfl rfl (by decide +kernel) hupload hdownload
    hposition hsize (by decide) (by decide) (by decide) hwords (by decide +kernel)
  have hpolls := hlast (by decide +kernel)
  exact ⟨(hpolls _).1, (hpolls _).2.1, (hpolls _).2.1⟩

end PlayStation.Gpu

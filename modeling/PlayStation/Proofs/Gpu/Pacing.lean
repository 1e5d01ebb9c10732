/-
  The PACE of GP0 does not matter.

  The processor and DMA write GP0 words when they have them, and the GPU takes them when it gets
  round to it.  A schedule says how the two interleave (`Move`).  Whatever the schedule, as long as
  no word is lost on a full FIFO, and the GPU is given the time to finish, the same words have the
  same result (`play_of_words`).

  1. **The stream** (`Stream`): the core, all words in front of it whether they wait in the FIFO or
     are still to be written, and the interrupts so far.  One `next?` bite is taken off it at a
     time, and what lies behind the bite has no influence on it (`Stream.next?_append`).

  2. **A move** either leaves the stream as it is or takes the next bite: writing a word moves it
     from those still to be written to those waiting, and a cycle does what `next?` does, or
     nothing (`stream_step`).

  3. **A schedule** so leads from the stream at its beginning down the one chain of bites
     (`chain_play`).  Two schedules of the same words begin with the same stream, and if both end
     where no bite is left, they end with the same one (`Stream.eq_of_chain`).
-/
import Mathlib.Logic.Relation
import PlayStation.Proofs.Gpu.Core

namespace PlayStation.Gpu

open Relation (ReflTransGen)
open Word (bit)

/-! ## The stream -/

/-- A GPU that is fed: its core, the words in front of it, and the interrupts it has reported. -/
structure Stream where
  gpu : Gpu
  words : List UInt32
  irqs : Nat

/-- One for a reported interrupt. -/
def Events.irqs (e : Events) : Nat := if e.irq then 1 else 0

namespace Stream

/-- The stream behind a bite of `n` words, `first` in front. -/
def bite (s : Stream) (first : UInt32) (n : Nat) : Stream :=
  let g := s.gpu.digest first (s.words.take n) s.gpu.intake
  { gpu := { g with interruptRequested := false }
    words := s.words.drop n
    irqs := s.irqs + if g.interruptRequested then 1 else 0 }

/-- The stream behind the next bite, if there are enough words for one. -/
def next? (s : Stream) : Option Stream :=
  match s.words with
  | [] => none
  | first :: _ =>
    if s.words.length < s.gpu.intake.appetite first then none
    else some (s.bite first (s.gpu.intake.appetite first))

/-- The stream with more words behind. -/
def append (s : Stream) (more : List UInt32) : Stream := { s with words := s.words ++ more }

theorem next?_of_nil {s : Stream} (h : s.words = []) : s.next? = none := by
  rw [next?, h]

theorem next?_of_cons {s : Stream} {first : UInt32} {rest : List UInt32}
    (h : s.words = first :: rest) :
    s.next? =
      if s.words.length < s.gpu.intake.appetite first then none
      else some (s.bite first (s.gpu.intake.appetite first)) := by
  unfold next?
  split
  · next hnil =>
    rw [h] at hnil
    cases hnil
  · next hcons =>
    rw [h] at hcons
    cases hcons
    rfl

theorem bite_append {s : Stream} {n : Nat} (h : n ≤ s.words.length) (first : UInt32)
    (more : List UInt32) : (s.append more).bite first n = (s.bite first n).append more := by
  simp only [bite, append, List.take_append_of_le_length h, List.drop_append_of_le_length h]

/-- What there is to a next bite. -/
theorem next?_eq_some {s t : Stream} (h : s.next? = some t) :
    ∃ first rest, s.words = first :: rest ∧ s.gpu.intake.appetite first ≤ s.words.length ∧
      t = s.bite first (s.gpu.intake.appetite first) := by
  cases hwords : s.words with
  | nil =>
    rw [next?_of_nil hwords] at h
    cases h
  | cons first rest =>
    rw [next?_of_cons hwords] at h
    by_cases hshort : s.words.length < s.gpu.intake.appetite first
    · rw [if_pos hshort] at h
      cases h
    · rw [if_neg hshort] at h
      cases h
      rw [hwords] at hshort
      exact ⟨first, rest, rfl, Nat.not_lt.1 hshort, rfl⟩

/-- **What lies further behind** does not change the next bite. -/
theorem next?_append {s t : Stream} (h : s.next? = some t) (more : List UInt32) :
    (s.append more).next? = some (t.append more) := by
  obtain ⟨first, rest, hwords, hle, rfl⟩ := next?_eq_some h
  have hmore : (s.append more).words = first :: (rest ++ more) := by
    show s.words ++ more = _
    rw [hwords, List.cons_append]
  have hlength : ¬(s.append more).words.length < s.gpu.intake.appetite first := by
    show ¬(s.words ++ more).length < _
    rw [List.length_append]
    omega
  rw [next?_of_cons hmore]
  show (if _ < s.gpu.intake.appetite first then _ else _) = _
  rw [if_neg hlength]
  exact congrArg some (bite_append hle first more)

/-- A bite of the words that are wanted, when what they are digested to asks for no interrupt. -/
theorem next?_of_digest {g digested : Gpu} {first : UInt32} (taken : List UInt32)
    (hwants : g.intake.appetite first = taken.length + 1)
    (hdigest : g.digest first (first :: taken) g.intake = digested)
    (hquiet : digested.interruptRequested = false) (more : List UInt32) (irqs : Nat) :
    next? ⟨g, first :: taken ++ more, irqs⟩ = some ⟨digested, more, irqs⟩ := by
  have hquieted : { digested with interruptRequested := false } = digested := by
    rw [← hquiet]
  have henough : ¬(first :: taken ++ more).length < taken.length + 1 := by
    rw [List.length_append, List.length_cons]
    omega
  have htake : (first :: taken ++ more).take (taken.length + 1) = first :: taken :=
    List.take_left' rfl
  have hdrop : (first :: taken ++ more).drop (taken.length + 1) = more := List.drop_left' rfl
  rw [next?_of_cons rfl, hwants, if_neg henough, bite]
  simp only [htake, hdrop, hdigest, hquieted, hquiet, Bool.false_eq_true, if_false, Nat.add_zero]

/-- Every bite takes words off. -/
theorem length_next? {s t : Stream} (h : s.next? = some t) : t.words.length < s.words.length := by
  obtain ⟨first, rest, hwords, hle, rfl⟩ := next?_eq_some h
  have hpos := s.gpu.intake.appetite_pos first
  show (s.words.drop _).length < s.words.length
  rw [List.length_drop]
  omega

end Stream

/-- The stream of a GPU with its waiting words in front. -/
def stream (g : Gpu) (irqs : Nat) : Stream := ⟨g.core, g.fifo.toList, irqs⟩

/-- The stream of a GPU that reports its request for an interrupt, if it has one. -/
def report (g : Gpu) (irqs : Nat) : Stream :=
  ⟨{ g.core with interruptRequested := false }, g.fifo.toList,
    irqs + if g.interruptRequested then 1 else 0⟩

/-- Without a request there is nothing to report. -/
theorem report_of_quiet {g : Gpu} (hg : g.interruptRequested = false) (irqs : Nat) :
    g.report irqs = g.stream irqs := by
  have hsame : { g.core with interruptRequested := false } = g.core := by
    show Gpu.core { g with interruptRequested := false } = g.core
    rw [← hg]
  rw [report, hsame, hg]
  rfl

/-- The beam moves, and the stream does not feel it. -/
theorem stream_advanceBeam (g : Gpu) (irqs : Nat) :
    g.advanceBeam.2.stream irqs = g.stream irqs := by
  rw [stream, stream, core_advanceBeam, fifo_advanceBeam]

/-- To report on what was digested is to digest on the core. -/
theorem report_digest (g : Gpu) (fifo : CommandFifo) (first : UInt32) (words : List UInt32)
    (irqs : Nat) :
    ((g.withFifo fifo).digest first words g.intake).report irqs =
      ⟨{ g.core.digest first words g.intake with interruptRequested := false }, fifo.toList,
        irqs + if (g.core.digest first words g.intake).interruptRequested then 1 else 0⟩ := by
  have hcore : ((g.withFifo fifo).digest first words g.intake).core =
      g.core.digest first words g.intake := core_digest (g.withFifo fifo) first words g.intake
  have hrequest : ((g.withFifo fifo).digest first words g.intake).interruptRequested =
      (g.core.digest first words g.intake).interruptRequested := by
    rw [← hcore]
    rfl
  rw [report, hcore, hrequest, fifo_digest]
  rfl

/-- What the GPU takes from its FIFO is the next bite. -/
theorem report_consume {g : Gpu} (hg : g.interruptRequested = false) (irqs : Nat) :
    g.consume.report irqs = (g.stream irqs).next?.getD (g.stream irqs) := by
  cases hlist : g.fifo.toList with
  | nil =>
    rw [consume_of_nil hlist, report_of_quiet hg, Stream.next?_of_nil hlist]
    rfl
  | cons first rest =>
    have hwords : (g.stream irqs).words = first :: rest := hlist
    have hlength : (g.stream irqs).words.length = g.fifo.size := g.fifo.length_toList
    rw [consume_of_cons hlist, Stream.next?_of_cons hwords, hlength]
    show _ = (if g.fifo.size < g.intake.appetite first then none else some _).getD _
    by_cases hshort : g.fifo.size < g.intake.appetite first
    · -- too few words are waiting
      rw [if_pos hshort, if_pos hshort, report_of_quiet hg]
      rfl
    · rw [if_neg hshort, if_neg hshort, report_digest, (g.fifo.take_eq _).2, ← hlist]
      rfl

/-- **A step takes the next bite**, or nothing if there is none. -/
theorem stream_step {g : Gpu} (hg : g.interruptRequested = false) (irqs : Nat) :
    g.step.2.stream (irqs + g.step.1.irqs) = (g.stream irqs).next?.getD (g.stream irqs) := by
  have hquiet : g.advanceBeam.2.interruptRequested = false := by
    show g.advanceBeam.2.core.interruptRequested = false
    rw [core_advanceBeam]
    exact hg
  have hstep : g.step.2.stream (irqs + g.step.1.irqs) = g.advanceBeam.2.consume.report irqs := rfl
  rw [hstep, report_consume hquiet, stream_advanceBeam]

/-! ## Schedules -/

/-- What can happen between a GPU and what feeds it. -/
inductive Move where
  /-- A GP0 word is written. -/
  | word (w : UInt32)
  /-- The GPU takes a step. -/
  | cycle
deriving DecidableEq, Repr

/-- The words that are written, in order. -/
def Move.words : List Move → List UInt32
  | [] => []
  | .word w :: moves => w :: words moves
  | .cycle :: moves => words moves

/-- Goes through a schedule, and counts the interrupts that are reported. -/
def play (g : Gpu) : List Move → Nat × Gpu
  | [] => (0, g)
  | .word w :: moves => (g.queue w).play moves
  | .cycle :: moves =>
    let (irqs, last) := g.step.2.play moves
    (g.step.1.irqs + irqs, last)

/-- No word of a schedule meets a full FIFO. -/
def fits (g : Gpu) : List Move → Bool
  | [] => true
  | .word w :: moves => !g.fifo.isFull && (g.queue w).fits moves
  | .cycle :: moves => g.step.2.fits moves

/-- A further step would take no word. -/
def Settled (g : Gpu) : Prop := g.step.2.fifo.size = g.fifo.size

instance (g : Gpu) : Decidable g.Settled := inferInstanceAs (Decidable (_ = _))

/-- One bite leads from one stream to the other. -/
def Stream.Bites (s t : Stream) : Prop := s.next? = some t

/-- There is one chain of bites from a stream. -/
theorem Stream.rightUnique_bites : Relator.RightUnique Bites := by
  intro s t u ht hu
  exact Option.some.inj (ht.symm.trans hu)

/-- Where no bite is left, a chain goes nowhere. -/
theorem Stream.eq_of_stuck {s t : Stream} (h : s.next? = none) (hchain : ReflTransGen Bites s t) :
    s = t := by
  rcases hchain.cases_head with heq | ⟨u, hbite, -⟩
  · exact heq
  · exact nomatch h.symm.trans hbite

/-- Where no bite is left, chains of bites from one stream meet. -/
theorem Stream.eq_of_chain {s t u : Stream} (ht : ReflTransGen Bites s t)
    (hu : ReflTransGen Bites s u) (htend : t.next? = none) (huend : u.next? = none) : t = u := by
  rcases ReflTransGen.total_of_right_unique rightUnique_bites ht hu with hchain | hchain
  · exact eq_of_stuck htend hchain
  · exact (eq_of_stuck huend hchain).symm

/-- A step moves down the chain, whatever words are still to come. -/
theorem chain_step {g : Gpu} (hg : g.interruptRequested = false) (irqs : Nat)
    (coming : List UInt32) :
    ReflTransGen Stream.Bites ((g.stream irqs).append coming)
      ((g.step.2.stream (irqs + g.step.1.irqs)).append coming) := by
  rw [stream_step hg]
  cases h : (g.stream irqs).next? with
  | none => exact .refl
  | some t => exact .single (Stream.next?_append h coming)

/-- **A schedule moves down the chain** of the stream at its beginning. -/
theorem chain_play (moves : List Move) : ∀ (g : Gpu) (irqs : Nat), g.Sound → g.fits moves = true →
    (g.play moves).2.Sound ∧
    ReflTransGen Stream.Bites ((g.stream irqs).append (Move.words moves))
      ((g.play moves).2.stream (irqs + (g.play moves).1)) := by
  induction moves with
  | nil =>
    intro g irqs hg _
    have hnothing : (g.stream irqs).append [] = g.stream irqs := by
      show Stream.mk _ (g.fifo.toList ++ []) _ = _
      rw [List.append_nil]
      rfl
    refine ⟨hg, ?_⟩
    rw [Move.words, hnothing]
    exact .refl
  | cons move moves ih =>
    intro g irqs hg hfits
    cases move with
    | word w =>
      rw [fits, Bool.and_eq_true, Bool.not_eq_true'] at hfits
      -- the word moves from those still to be written to those waiting
      have hqueued : (g.stream irqs).append (w :: Move.words moves) =
          ((g.queue w).stream irqs).append (Move.words moves) := by
        have hpush : (g.queue w).fifo.toList = g.fifo.toList ++ [w] :=
          CommandFifo.toList_push hg.fifo hfits.1 w
        show Stream.mk _ _ _ = Stream.mk _ ((g.queue w).fifo.toList ++ _) _
        rw [hpush, List.append_assoc]
        rfl
      have hrest := ih (g.queue w) irqs (hg.perform (.queue w)) hfits.2
      rw [Move.words, hqueued]
      exact hrest
    | cycle =>
      -- one bite or none, and then the rest of the schedule
      obtain ⟨hsound, hchain⟩ := ih g.step.2 (irqs + g.step.1.irqs) hg.step hfits
      refine ⟨hsound, (chain_step hg.quiet irqs _).trans ?_⟩
      rw [Nat.add_assoc] at hchain
      exact hchain

/-- A settled GPU has no bite left. -/
theorem next?_of_settled {g : Gpu} (hg : g.interruptRequested = false) (h : g.Settled)
    (irqs : Nat) : (g.stream irqs).next? = none := by
  cases hnext : (g.stream irqs).next? with
  | none => rfl
  | some t =>
    have hshorter := Stream.length_next? hnext
    have hstep := stream_step hg irqs
    rw [hnext] at hstep
    have hwords : t.words = g.step.2.fifo.toList := (congrArg Stream.words hstep).symm
    have hsize : g.step.2.fifo.size = g.fifo.size := h
    have hbefore : (g.stream irqs).words.length = g.fifo.size := g.fifo.length_toList
    rw [hwords, CommandFifo.length_toList] at hshorter
    omega

/-! ## The result -/

/-- The primitives that were drawn, in order. -/
def Renderer.drawings (r : Renderer) : Array RenderCall := r.calls.filter RenderCall.isDrawing

theorem Renderer.drawings_eq (r : Renderer) : r.drawings = r.drawn.calls := by cases r <;> rfl

/-- Two GPUs are the same as far as GP0 words can make a difference. -/
structure Agree (g h : Gpu) : Prop where
  fifo : g.fifo.toList = h.fifo.toList
  vram : g.vram = h.vram
  drawingArea : g.drawingArea = h.drawingArea
  drawingOffset : g.drawingOffset = h.drawingOffset
  textureWindow : g.textureWindow = h.textureWindow
  rectangleFlip : g.rectangleFlip = h.rectangleFlip
  /-- The stored status, but for the interlace field. -/
  status : ∀ n : UInt32, n < 32 → n ≠ 13 → bit g.status.bits n = bit h.status.bits n
  upload : g.upload = h.upload
  download : g.download = h.download
  polyline : g.polyline = h.polyline
  drawings : g.renderer.drawings = h.renderer.drawings

/-- The same core and the same words are agreement. -/
theorem agree_of_stream {g h : Gpu} {m n : Nat} (heq : g.stream m = h.stream n) : Agree g h := by
  have hcore : g.core = h.core := congrArg Stream.gpu heq
  have hfield : ∀ {α : Type} (field : Gpu → α), field g.core = field h.core :=
    fun field => congrArg field hcore
  refine ⟨congrArg Stream.words heq, hfield vram, hfield drawingArea, hfield drawingOffset,
    hfield textureWindow, hfield rectangleFlip, ?_, hfield upload, hfield download,
    hfield polyline, ?_⟩
  · intro n hn hplace
    have hbits := hfield fun c => bit c.status.bits n
    have hplain : ∀ s : Status, bit s.fieldless.bits n = bit s.bits n := by
      intro s
      rw [s.bit_fieldless hn, if_neg hplace]
    rw [← hplain g.status, ← hplain h.status]
    exact hbits
  · rw [Renderer.drawings_eq, Renderer.drawings_eq]
    exact hfield fun c => c.renderer.calls

/-- **The pace does not matter.**  From any reachable state, go through two schedules of the same
words, neither of which loses a word on a full FIFO, and both of which end where a further step
would take no word.  Then the two GPUs agree, and as many interrupts were reported. -/
theorem play_of_words {g : Gpu} (hg : Reachable g) {s t : List Move}
    (hwords : Move.words s = Move.words t) (hs : g.fits s = true) (ht : g.fits t = true)
    (hsend : (g.play s).2.Settled) (htend : (g.play t).2.Settled) :
    Agree (g.play s).2 (g.play t).2 ∧ (g.play s).1 = (g.play t).1 := by
  obtain ⟨hssound, hschain⟩ := chain_play s g 0 hg.sound hs
  obtain ⟨htsound, htchain⟩ := chain_play t g 0 hg.sound ht
  rw [hwords] at hschain
  have heq := Stream.eq_of_chain hschain htchain (next?_of_settled hssound.quiet hsend _)
    (next?_of_settled htsound.quiet htend _)
  refine ⟨agree_of_stream heq, ?_⟩
  have hirqs : 0 + (g.play s).1 = 0 + (g.play t).1 := congrArg Stream.irqs heq
  omega

/-- A line strip and an interrupt request, once written in a burst and once word by word. -/
theorem play_of_words_strip :
    let words : List UInt32 :=
      [0xE5000801, 0x48FFFFFF, 0x00000000, 0x000A000A, 0x55555555, 0x1F000000]
    let burst := words.map Move.word ++ List.replicate 5 .cycle
    let slow := words.flatMap fun w => [.word w, .cycle]
    let start : Gpu := { renderer := .recorder }
    Agree (start.play burst).2 (start.play slow).2 ∧
      (start.play burst).1 = (start.play slow).1 := by
  intro words burst slow start
  have hstart : Reachable start := .perform (.attach .recorder) .powerOn
  exact play_of_words hstart (by decide) (by decide +kernel) (by decide +kernel)
    (by decide +kernel) (by decide +kernel)

end PlayStation.Gpu

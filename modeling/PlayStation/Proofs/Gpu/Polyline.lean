/-
  A POLYLINE, from its command word to the word that ends it.

  A polyline may have any number of points, far more than the FIFO has places.  So it is drawn while
  it arrives: the GPU holds a pen, and every further point is one line and moves the pen on.  Whatever
  the schedule in which the words are written and taken, each point but the first is the end of one
  line, from the point before it (`play_polyline`).

  1. **The words** (`PolylineDraft.words`).  A point behind the first is a place, with gouraud shading
     behind a colour.  The word that ends the polyline is looked for only where a point may begin, so
     with gouraud shading a place may well look like it.

  2. **The lines** (`PolylineDraft.lines`), from each point to the next.

  3. **The chain of bites** (`chain_points`), by induction on the points still to come: one bite puts
     the pen down, one draws each line, one lifts the pen.  The pen at the point before is all that
     one bite leaves to the next.

  4. **Words behind the polyline** are taken as if the lines had been there all the time: what is left
     behind the last bite is the GPU with the lines drawn, waiting for a command.
-/
import PlayStation.Proofs.Gpu.Primitives
import PlayStation.Proofs.Gpu.Upload

namespace PlayStation.Gpu

open Relation (ReflTransGen)
open Word (bit)

/-! ## The words and the lines -/

/-- A point of a polyline as it is written.  The first one has the command word for its shade. -/
structure Joint where
  shade : UInt32
  place : UInt32

/-- Where a point is drawn. -/
def Joint.vertex (p : Joint) (offset : Vertex) : Vertex := (Vertex.ofWord p.place).moveBy offset

/-- A polyline as it is written. -/
structure PolylineDraft where
  command : UInt32
  /-- The command byte is 48 to 4F or 58 to 5F. -/
  isPolyline : command >>> 24 &&& 0xE8 = 0x48
  /-- The first place. -/
  place : UInt32
  /-- The points behind the first. -/
  joints : List Joint
  /-- Where a point may begin, no word looks like the end. -/
  goesOn : ∀ p ∈ joints,
    (if bit command 28 then p.shade else p.place) &&& 0xF000F000 ≠ 0x50005000
  terminator : UInt32
  ends : terminator &&& 0xF000F000 = 0x50005000

namespace PolylineDraft

variable (d : PolylineDraft)

def gouraud : Bool := bit d.command 28

def semiTransparent : Bool := bit d.command 25

/-- The words of a point behind the first. -/
def jointWords (p : Joint) : List UInt32 := if d.gouraud then [p.shade, p.place] else [p.place]

/-- All its words. -/
def words : List UInt32 :=
  d.command :: d.place :: (d.joints.flatMap d.jointWords ++ [d.terminator])

/-- The first point; its colour is in the command word. -/
def first : Joint := ⟨d.command, d.place⟩

/-- The colour at a point: its own with gouraud shading, and else that of the command word. -/
def color (p : Joint) : Color := .ofWord (if d.gouraud then p.shade else d.command)

section Lines

variable (offset : Vertex) (clip : DrawingArea)

/-- The line from one point to another. -/
def line (p q : Joint) : Line where
  start := p.vertex offset
  stop := q.vertex offset
  startColor := d.color p
  stopColor := d.color q
  semiTransparent := d.semiTransparent
  clip

/-- The lines from each point to the next. -/
def lines : List Line := List.zipWith (d.line offset clip) (d.first :: d.joints) d.joints

/-- There are as many lines as points behind the first. -/
theorem length_lines : (d.lines offset clip).length = d.joints.length := by
  simp [lines]

end Lines

/-- The pen at a point. -/
def pen (offset : Vertex) (p : Joint) : Pen where
  gouraud := d.gouraud
  semiTransparent := d.semiTransparent
  vertex := p.vertex offset
  color := d.color p

end PolylineDraft

/-- The renderer when it was told of some lines, one after the other. -/
def Renderer.receiveLines (r : Renderer) (lines : List Line) : Renderer :=
  lines.foldl (fun r line => r.receive (.line line)) r

/-- The GPU with some lines drawn. -/
def drawAll (g : Gpu) (lines : List Line) : Gpu :=
  { g with renderer := g.renderer.receiveLines lines }

/-! ## The pen -/

section Bites

variable (d : PolylineDraft) {g : Gpu}

/-- The GPU with the pen at a point. -/
def penAt (g : Gpu) (d : PolylineDraft) (p : Joint) : Gpu :=
  { g with polyline := some (d.pen g.drawingOffset p) }

theorem intake_penAt (hupload : g.upload = none) (p : Joint) :
    (g.penAt d p).intake = .polyline (d.pen g.drawingOffset p) :=
  intake_eq_polyline_iff.2 ⟨hupload, rfl⟩

theorem PolylineDraft.ofWord_command :
    Command.ofWord d.command = .line (.ofWord d.command) ∧
      (LineStyle.ofWord d.command).polyline = true := by
  have hfamily : d.command >>> 24 &&& 0xE0 = 0x40 := family_of_masked d.isPolyline rfl
  have hfill : (d.command >>> 24 == 0x02) = false := code_ne_of_masked d.isPolyline (by decide)
  have hinterrupt : (d.command >>> 24 == 0x1F) = false :=
    code_ne_of_masked d.isPolyline (by decide)
  constructor
  · simp [Command.ofWord, hfill, hinterrupt, hfamily]
  · exact flag_of_masked d.isPolyline (n := 3) (by decide) (by decide) (by decide)

/-- **The pen goes down** at the first point. -/
theorem next?_pen (hquiet : g.interruptRequested = false) (hintake : g.intake = .command)
    (more : List UInt32) (irqs : Nat) :
    Stream.next? ⟨g, d.command :: d.place :: more, irqs⟩ =
      some ⟨g.penAt d d.first, more, irqs⟩ := by
  obtain ⟨hcommand, hpolyline⟩ := d.ofWord_command
  have hwants : g.intake.appetite d.command = 2 := by
    rw [hintake, Intake.appetite, hcommand, Command.length, LineStyle.length, if_pos hpolyline]
  have hdigest : g.digest d.command [d.command, d.place] g.intake = g.penAt d d.first := by
    have hcolor : d.color d.first = Color.ofWord d.command := by
      simp [PolylineDraft.color, PolylineDraft.first]
    rw [hintake, digest, hcommand]
    show g.drawLine _ _ = _
    rw [drawLine, if_pos hpolyline, penAt, PolylineDraft.pen, hcolor]
    rfl
  exact Stream.next?_of_digest [d.place] hwants hdigest hquiet more irqs

/-- What the pen reads of the words of a point is the line to it. -/
theorem PolylineDraft.segment?_jointWords (offset : Vertex) (clip : DrawingArea) (p q : Joint) :
    (d.pen offset p).segment? offset clip (d.jointWords q) =
      some (d.line offset clip p q, d.pen offset q) := by
  cases hgouraud : d.gouraud <;>
    simp [Pen.segment?, pen, line, color, jointWords, Joint.vertex, hgouraud]

/-- The first word of a point does not look like the end, and the pen wants all of them. -/
theorem PolylineDraft.jointWords_eq (offset : Vertex) (p : Joint) {q : Joint}
    (hq : q ∈ d.joints) :
    ∃ lead taken, d.jointWords q = lead :: taken ∧ Pen.isTerminator lead = false ∧
      (d.pen offset p).needed = taken.length + 1 := by
  have hgoesOn := d.goesOn q hq
  unfold jointWords Pen.needed pen gouraud
  split
  · next hgouraud =>
    rw [if_pos hgouraud] at hgoesOn
    exact ⟨q.shade, [q.place], rfl, beq_false_of_ne hgoesOn, by simp⟩
  · next hgouraud =>
    rw [if_neg hgouraud] at hgoesOn
    exact ⟨q.place, [], rfl, beq_false_of_ne hgoesOn, by simp⟩

/-- **A point** is a line, and the pen moves on. -/
theorem next?_joint (hquiet : g.interruptRequested = false) (hupload : g.upload = none) (p : Joint)
    {q : Joint} (hq : q ∈ d.joints) (more : List UInt32) (irqs : Nat) :
    Stream.next? ⟨g.penAt d p, d.jointWords q ++ more, irqs⟩ =
      some ⟨(g.render (.line (d.line g.drawingOffset g.drawingArea p q))).penAt d q, more,
        irqs⟩ := by
  obtain ⟨lead, taken, hwords, hlead, hneeded⟩ := d.jointWords_eq g.drawingOffset p hq
  have hsegment := d.segment?_jointWords g.drawingOffset g.drawingArea p q
  rw [hwords] at hsegment ⊢
  have hwants : (g.penAt d p).intake.appetite lead = taken.length + 1 := by
    rw [intake_penAt d hupload, Intake.appetite, hlead]
    exact hneeded
  have hdigest : (g.penAt d p).digest lead (lead :: taken) (g.penAt d p).intake =
      (g.render (.line (d.line g.drawingOffset g.drawingArea p q))).penAt d q := by
    have hsame : (d.pen g.drawingOffset p).segment? (g.penAt d p).drawingOffset
        (g.penAt d p).drawingArea (lead :: taken) = _ := hsegment
    rw [intake_penAt d hupload, digest, hlead, hsame]
    rfl
  exact Stream.next?_of_digest taken hwants hdigest hquiet more irqs

/-- **The pen is lifted** by the word that ends the polyline. -/
theorem next?_terminator (hquiet : g.interruptRequested = false) (hupload : g.upload = none)
    (p : Joint) (more : List UInt32) (irqs : Nat) :
    Stream.next? ⟨g.penAt d p, d.terminator :: more, irqs⟩ =
      some ⟨{ g with polyline := none }, more, irqs⟩ := by
  have hends : Pen.isTerminator d.terminator = true := beq_iff_eq.2 d.ends
  have hwants : (g.penAt d p).intake.appetite d.terminator = 1 := by
    rw [intake_penAt d hupload]
    exact if_pos hends
  have hdigest : (g.penAt d p).digest d.terminator [d.terminator] (g.penAt d p).intake =
      { g with polyline := none } := by
    rw [intake_penAt d hupload]
    exact if_pos hends
  exact Stream.next?_of_digest [] hwants hdigest hquiet more irqs

end Bites

/-! ## The chain -/

section Chain

variable (d : PolylineDraft)

/-- **The points behind the pen** are a line each, up to the word that ends the polyline. -/
theorem chain_points (more : List UInt32) (irqs : Nat) (joints : List Joint) :
    ∀ (g : Gpu) (p : Joint), g.interruptRequested = false → g.upload = none →
    (∀ q ∈ joints, q ∈ d.joints) →
    ReflTransGen Stream.Bites
      ⟨g.penAt d p, joints.flatMap d.jointWords ++ d.terminator :: more, irqs⟩
      ⟨{ g.drawAll (List.zipWith (d.line g.drawingOffset g.drawingArea) (p :: joints) joints) with
          polyline := none }, more, irqs⟩ := by
  induction joints with
  | nil =>
    intro g p hquiet hupload _
    exact .single (next?_terminator d hquiet hupload p more irqs)
  | cons q joints ih =>
    intro g p hquiet hupload hall
    obtain ⟨hq, hrest⟩ := List.forall_mem_cons.1 hall
    have hjoint := next?_joint d hquiet hupload p hq
      (joints.flatMap d.jointWords ++ d.terminator :: more) irqs
    rw [List.flatMap_cons, List.append_assoc, List.zipWith_cons_cons]
    -- the line that was drawn changes neither the drawing offset nor the area
    exact .head hjoint (ih _ q hquiet hupload hrest)

/-- **A polyline** is its lines, and then words are commands again. -/
theorem chain_polyline {g : Gpu} (hquiet : g.interruptRequested = false)
    (hintake : g.intake = .command) (more : List UInt32) (irqs : Nat) :
    ReflTransGen Stream.Bites ⟨g, d.words ++ more, irqs⟩
      ⟨g.drawAll (d.lines g.drawingOffset g.drawingArea), more, irqs⟩ := by
  obtain ⟨hupload, hpolyline⟩ := intake_eq_command_iff.1 hintake
  have hpoints := chain_points d more irqs d.joints g d.first hquiet hupload fun _ hq => hq
  have hcommand : ∀ lines, { g.drawAll lines with polyline := none } = g.drawAll lines := by
    intro lines
    rw [drawAll, ← hpolyline]
  have hwords : d.words ++ more = d.command :: d.place ::
      (d.joints.flatMap d.jointWords ++ d.terminator :: more) := by
    simp [PolylineDraft.words]
  rw [hcommand] at hpoints
  rw [hwords]
  exact .head (next?_pen d hquiet hintake _ irqs) hpoints

end Chain

/-! ## The result -/

theorem core_drawAll (lines : List Line) : ∀ g : Gpu,
    (g.drawAll lines).core = g.core.drawAll lines := by
  induction lines with
  | nil => exact fun g => rfl
  | cons line lines ih =>
    intro g
    have hfirst : (g.render (.line line)).core = g.core.render (.line line) := g.core_render rfl
    have hrest := ih (g.render (.line line))
    rw [hfirst] at hrest
    exact hrest

/-- A recording renderer keeps the lines behind what it has. -/
theorem drawings_receiveLines (lines : List Line) : ∀ calls,
    ((Renderer.recording calls).receiveLines lines).drawings =
      (Renderer.recording calls).drawings ++ lines.map RenderCall.line := by
  induction lines with
  | nil => simp [Renderer.receiveLines]
  | cons line lines ih =>
    intro calls
    have hrest := ih (calls.push (.line line))
    have hfirst : (Renderer.recording (calls.push (.line line))).drawings =
        (Renderer.recording calls).drawings.push (.line line) := drawings_receive calls rfl
    refine hrest.trans ?_
    rw [hfirst]
    simp

/-- Down a chain the words get fewer. -/
theorem Stream.length_chain {s t : Stream} (h : ReflTransGen Bites s t) :
    t.words.length ≤ s.words.length := by
  induction h with
  | refl => exact Nat.le_refl _
  | tail _ hbite ih => exact Nat.le_trans (Nat.le_of_lt (length_next? hbite)) ih

/-- Where there are as many words, nothing was taken. -/
theorem Stream.eq_of_length {s t : Stream} (h : ReflTransGen Bites s t)
    (hlength : s.words.length ≤ t.words.length) : s = t := by
  rcases h.cases_head with heq | ⟨x, hbite, hrest⟩
  · exact heq
  · have hshorter := length_next? hbite
    have hrest' := length_chain hrest
    omega

section Result

variable {g : Gpu} {moves : List Move} {more : List UInt32}

/-- **A polyline is drawn.**  To a GPU without waiting words, in which words are commands, write a
polyline of any number of points and any words behind it, in any schedule that loses no word on a
full FIFO.  Given the cycles, the words of the polyline are taken.  And when just those behind it are
waiting, the renderer was told of as many lines as there are points behind the first, each from
one point to the next, words are commands, and nothing else has changed. -/
theorem play_polyline (hg : g.Sound) (hempty : g.fifo.toList = []) (hintake : g.intake = .command)
    (d : PolylineDraft) (hwords : Move.words moves = d.words ++ more)
    (hfits : g.fits moves = true) :
    let lines := d.lines g.drawingOffset g.drawingArea
    lines.length = d.joints.length ∧
    (g.play (moves ++ List.replicate fifoCapacity .cycle)).2.fifo.size ≤ more.length ∧
    ((g.play moves).2.fifo.toList = more →
      (g.play moves).2.intake = .command ∧
      (∀ calls, g.renderer = .recording calls →
        (g.play moves).2.renderer.drawings = g.renderer.drawings ++ lines.map RenderCall.line) ∧
      (g.play moves).2.core = (g.drawAll lines).core) := by
  intro lines
  obtain ⟨hsound, hplayed⟩ := chain_play moves g 0 hg hfits
  have hstream : (g.stream 0).append (Move.words moves) = ⟨g.core, d.words ++ more, 0⟩ := by
    rw [stream, hempty, hwords]
    rfl
  have hchain : ReflTransGen Stream.Bites ((g.stream 0).append (Move.words moves))
      ⟨(g.drawAll lines).core, more, 0⟩ := by
    rw [hstream, core_drawAll]
    exact chain_polyline d (g := g.core) hg.quiet hintake more 0
  have hsize : ∀ irqs, ((g.play moves).2.stream irqs).words.length = (g.play moves).2.fifo.size :=
    fun _ => (g.play moves).2.fifo.length_toList
  -- there is one chain, so the schedule ended before the end of the polyline or behind it
  have hwhere := ReflTransGen.total_of_right_unique Stream.rightUnique_bites hplayed hchain
  refine ⟨d.length_lines _ _, ?_, ?_⟩
  · rw [play_append]
    rcases hwhere with hahead | hbehind
    · have hcapacity := hsound.fifo.size
      exact size_play_le fifoCapacity _ _ hsound hahead (by omega)
    · have hfewer := Stream.length_chain hbehind
      rw [hsize] at hfewer
      exact Nat.le_trans (size_cycles_le _ _) hfewer
  · intro hwaiting
    have heq : (g.play moves).2.stream (0 + (g.play moves).1) =
        ⟨(g.drawAll lines).core, more, 0⟩ := by
      have hsame : (g.play moves).2.fifo.size = more.length := by
        rw [← CommandFifo.length_toList, hwaiting]
      rcases hwhere with hahead | hbehind
      · exact Stream.eq_of_length hahead (Nat.le_of_eq ((hsize _).trans hsame))
      · exact (Stream.eq_of_length hbehind
          (Nat.le_of_eq ((hsize _).trans hsame).symm)).symm
    have hcore : (g.play moves).2.core = (g.drawAll lines).core := congrArg Stream.gpu heq
    refine ⟨(congrArg Gpu.intake hcore).trans hintake, ?_, hcore⟩
    intro calls hcalls
    have hdrawn : (g.play moves).2.renderer.drawn.calls = (g.drawAll lines).renderer.drawn.calls :=
      congrArg (fun c => c.renderer.calls) hcore
    rw [Renderer.drawings_eq, hdrawn, ← Renderer.drawings_eq, hcalls]
    show (g.renderer.receiveLines lines).drawings = _
    rw [hcalls]
    exact drawings_receiveLines lines calls

end Result

/-- A shaded polyline of three points.  The second place looks like the word that ends it, and that
word is still to come when the GPU has nothing to do; behind it the next command is waiting. -/
theorem play_polyline_shaded :
    let start : Gpu := { drawingOffset := ⟨8, -4⟩, renderer := .recorder }
    let draft : PolylineDraft :=
      { command := 0x5A112233, isPolyline := by decide, place := 0x00000000
        joints := [⟨0x000000FF, 0x50005000⟩, ⟨0x0000FF00, 0x000A0005⟩]
        goesOn := by decide, terminator := 0x5ABC5DEF, ends := by decide }
    let moves : List Move :=
      [.word 0x5A112233, .cycle, .word 0x00000000, .word 0x000000FF, .cycle, .cycle,
        .word 0x50005000, .word 0x0000FF00, .cycle, .word 0x000A0005, .cycle, .cycle,
        .word 0x5ABC5DEF, .word 0xE3000000, .cycle]
    let after := (start.play moves).2
    Move.words moves = draft.words ++ [0xE3000000] ∧
    after.intake = .command ∧ after.fifo.toList = [0xE3000000] ∧
    after.renderer.drawings =
      #[.line ⟨⟨8, -4⟩, ⟨8, -4⟩, ⟨0x33, 0x22, 0x11⟩, ⟨0xFF, 0, 0⟩, true, {}⟩,
        .line ⟨⟨8, -4⟩, ⟨13, 6⟩, ⟨0xFF, 0, 0⟩, ⟨0, 0xFF, 0⟩, true, {}⟩] := by
  intro start draft moves after
  have hsound : start.Sound := ⟨CommandFifo.valid_empty, rfl⟩
  have hwords : Move.words moves = draft.words ++ [0xE3000000] := by decide
  have hrenderer : start.renderer = .recording #[] := rfl
  obtain ⟨-, -, hafter⟩ := play_polyline hsound rfl rfl draft hwords (by decide +kernel)
  have hwaiting : after.fifo.toList = [0xE3000000] := by decide +kernel
  obtain ⟨hintake, hdrawings, -⟩ := hafter hwaiting
  have hlines : draft.lines start.drawingOffset start.drawingArea =
      [⟨⟨8, -4⟩, ⟨8, -4⟩, ⟨0x33, 0x22, 0x11⟩, ⟨0xFF, 0, 0⟩, true, {}⟩,
        ⟨⟨8, -4⟩, ⟨13, 6⟩, ⟨0xFF, 0, 0⟩, ⟨0, 0xFF, 0⟩, true, {}⟩] := by decide
  refine ⟨hwords, hintake, hwaiting, (hdrawings #[] hrenderer).trans ?_⟩
  rw [hlines, hrenderer]
  rfl

end PlayStation.Gpu

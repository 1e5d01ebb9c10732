/-
  What is written as a primitive is DRAWN as that primitive.

  Somebody lays a polygon, a line or a rectangle out in words (`Primitive.words`) and writes them to a
  GPU with nothing to do.  One step takes these words and no others, and tells the renderer of that
  primitive (`step_primitive`): every point moved by the drawing offset, with its own colour and
  texel, clipped to the drawing area in force.

  1. **The command word** says which command it begins (`Primitive.ofWord_commandWord`), and
     with it how many words there are.  There are as many as were written (`length_words`).

  2. **The operands** are read one point after the other.  What is behind a point is left for the
     next (`Point.readPlace_placeWords`, `PolygonDraft.readCorner_words`), so a whole primitive is
     read as it was written (`ofWords_operands`).

  3. **The page** is in the words of a polygon only, and comes into force with it
     (`Primitive.settle`).  A rectangle has the page that software reads from the status word
     (`pageOf_statusWord`).

  4. **One bite** of the stream is the whole primitive (`Primitive.next?_words`), whatever words are
     behind it.
-/
import PlayStation.Proofs.Gpu.DmaRequest
import PlayStation.Proofs.Gpu.Layout
import PlayStation.Proofs.Gpu.Pacing
import PlayStation.Proofs.Gpu.Room

namespace PlayStation.Gpu

open Word (bit)

/-! ## Command words -/

section CommandBytes

variable {w mask value : UInt32} (h : w >>> 24 &&& mask = value)

include h

/-- Of a command byte that is known under a mask, the family is known with the mask. -/
theorem family_of_masked (hmask : mask &&& 0xE0 = 0xE0) :
    w >>> 24 &&& 0xE0 = value &&& 0xE0 := by
  rw [← h, UInt32.and_assoc, hmask]

/-- It is no byte that the mask tells apart. -/
theorem code_ne_of_masked {code : UInt32} (hcode : code &&& mask ≠ value) :
    (w >>> 24 == code) = false := by
  refine beq_false_of_ne fun heq => hcode ?_
  rw [← heq]
  exact h

/-- And of its flags, those under the mask are known. -/
theorem flag_of_masked {n : UInt32} (hn : n < 32) (hplace : n + 24 < 32)
    (hmask : bit mask n = true) : bit w (n + 24) = bit value n := by
  rw [← h, Word.bit_and, Word.bit_shiftRight _ (by decide) hn, hmask, decide_eq_true hplace,
    Bool.true_and, Bool.and_true]

end CommandBytes

section CommandWords

variable (c : Color)

/-- A flag of the command byte stands in the top byte of the command word. -/
theorem bit_word (code : UInt8) {n : UInt32} (hn : n < 32) (hplace : n + 24 < 32) :
    bit (c.word code) (n + 24) = bit code.toUInt32 n := by
  rw [← c.word_shiftRight code, Word.bit_shiftRight _ (by decide) hn, decide_eq_true hplace,
    Bool.true_and]

/-- The five flags that a style is read from. -/
theorem flags_word (code : UInt8) :
    bit (c.word code) 28 = bit code.toUInt32 4 ∧ bit (c.word code) 27 = bit code.toUInt32 3 ∧
    bit (c.word code) 26 = bit code.toUInt32 2 ∧ bit (c.word code) 25 = bit code.toUInt32 1 ∧
    bit (c.word code) 24 = bit code.toUInt32 0 :=
  ⟨bit_word c code (n := 4) (by decide) (by decide),
    bit_word c code (n := 3) (by decide) (by decide),
    bit_word c code (n := 2) (by decide) (by decide),
    bit_word c code (n := 1) (by decide) (by decide),
    bit_word c code (n := 0) (by decide) (by decide)⟩

/-- The size bits of a rectangle stand there as well. -/
theorem field_word (code : UInt8) :
    Word.field (c.word code) 27 2 = Word.field code.toUInt32 3 2 := by
  have hdiv : (c.word code).toNat / 2 ^ 27 = (c.word code >>> 24).toNat / 2 ^ 3 := by
    rw [UInt32.toNat_shiftRight]
    show _ = (c.word code).toNat >>> 24 / 2 ^ 3
    rw [Nat.shiftRight_eq_div_pow]
    omega
  rw [field_eq, field_eq, hdiv, c.word_shiftRight]

theorem PolygonStyle.ofWord_word (s : PolygonStyle) : PolygonStyle.ofWord (c.word s.code) = s := by
  obtain ⟨hgouraud, hquad, htextured, hsemiTransparent, hraw⟩ := flags_word c s.code
  rw [PolygonStyle.ofWord, hgouraud, hquad, htextured, hsemiTransparent, hraw]
  obtain ⟨_ | _, _ | _, _ | _, _ | _, _ | _⟩ := s <;> decide

theorem LineStyle.ofWord_word (s : LineStyle) (spare : Bool × Bool) :
    LineStyle.ofWord (c.word (s.code spare)) = s := by
  obtain ⟨hgouraud, hpolyline, -, hsemiTransparent, -⟩ := flags_word c (s.code spare)
  rw [LineStyle.ofWord, hgouraud, hpolyline, hsemiTransparent]
  obtain ⟨_ | _, _ | _⟩ := spare <;> obtain ⟨_ | _, _ | _, _ | _⟩ := s <;> decide

/-- The sizes that a command byte can say. -/
def rectangleSizes : List RectangleSize := [.given, .square 1, .square 8, .square 16]

theorem SizeDraft.size_mem (size : SizeDraft) : size.size ∈ rectangleSizes := by
  cases size with
  | given width height => exact List.mem_cons_self
  | _ => decide

theorem RectangleStyle.ofWord_word {s : RectangleStyle} (h : s.size ∈ rectangleSizes) :
    RectangleStyle.ofWord (c.word s.code) = s := by
  obtain ⟨-, -, htextured, hsemiTransparent, hraw⟩ := flags_word c s.code
  rw [RectangleStyle.ofWord, field_word, htextured, hsemiTransparent, hraw]
  clear htextured hsemiTransparent hraw
  obtain ⟨size, _ | _, _ | _, _ | _⟩ := s <;> revert size <;> decide

/-- **The command** that a command word begins is the one of its command byte. -/
theorem Command.ofWord_polygon (s : PolygonStyle) :
    Command.ofWord (c.word s.code) = .polygon s := by
  have hcode : (s.code.toUInt32 == 0x02) = false ∧ (s.code.toUInt32 == 0x1F) = false ∧
      (s.code.toUInt32 &&& 0xE0 == 0x20) = true := by
    obtain ⟨_ | _, _ | _, _ | _, _ | _, _ | _⟩ := s <;> decide
  simp only [Command.ofWord, c.word_shiftRight, hcode, s.ofWord_word c]
  rfl

theorem Command.ofWord_line (s : LineStyle) (spare : Bool × Bool) :
    Command.ofWord (c.word (s.code spare)) = .line s := by
  have hcode : ((s.code spare).toUInt32 == 0x02) = false ∧
      ((s.code spare).toUInt32 == 0x1F) = false ∧ (s.code spare).toUInt32 &&& 0xE0 = 0x40 := by
    obtain ⟨_ | _, _ | _⟩ := spare <;> obtain ⟨_ | _, _ | _, _ | _⟩ := s <;> decide
  simp only [Command.ofWord, c.word_shiftRight, hcode, s.ofWord_word c]
  rfl

theorem Command.ofWord_rectangle {s : RectangleStyle} (h : s.size ∈ rectangleSizes) :
    Command.ofWord (c.word s.code) = .rectangle s := by
  have hcode : (s.code.toUInt32 == 0x02) = false ∧ (s.code.toUInt32 == 0x1F) = false ∧
      s.code.toUInt32 &&& 0xE0 = 0x60 := by
    obtain ⟨size, _ | _, _ | _, _ | _⟩ := s <;> revert size <;> decide
  simp only [Command.ofWord, c.word_shiftRight, hcode, RectangleStyle.ofWord_word c h]
  rfl

end CommandWords

/-! ## Operands -/

theorem PolygonDraft.length_operands (d : PolygonDraft) :
    d.style.length = d.operands.length + 1 := by
  obtain ⟨first, second, third, _ | fourth, _ | _, _ | _, semiTransparent, raw⟩ := d <;> rfl

theorem LineDraft.length_operands (d : LineDraft) : d.style.length = d.operands.length + 1 := by
  obtain ⟨start, stop, _ | _, semiTransparent, spare⟩ := d <;> rfl

theorem RectangleDraft.length_operands (d : RectangleDraft) :
    d.style.length = d.operands.length + 1 := by
  obtain ⟨corner, _ | _ | _ | _, _ | _, semiTransparent, raw⟩ := d <;> rfl

section Operands

variable (offset : Vertex) (clip : DrawingArea)

theorem Point.moveBy_ofWord (p : Point) :
    (Vertex.ofWord p.place.word).moveBy offset = p.vertex offset := by
  rw [p.place.ofWord_word]
  rfl

/-- What is read of a point without its colour. -/
def Point.reading (p : Point) (color : Color) (textured : Bool) : Polygon.Reading :=
  ⟨p.corner color textured offset, if textured then p.upper else 0⟩

theorem Point.readPlace_placeWords (p : Point) (textured : Bool) (color : Color)
    (rest : List UInt32) :
    Polygon.readPlace textured offset color (p.placeWords textured ++ rest) =
      some (p.reading offset color textured, rest) := by
  cases textured with
  | false =>
    show some (Polygon.Reading.mk
      ⟨(Vertex.ofWord p.place.word).moveBy offset, color, {}⟩ 0, rest) = _
    rw [p.moveBy_ofWord]
    rfl
  | true =>
    show some (Polygon.Reading.mk
      ⟨(Vertex.ofWord p.place.word).moveBy offset, color, .ofWord (p.texel.word p.upper)⟩
      (p.texel.word p.upper >>> 16).toUInt16, rest) = _
    rw [p.moveBy_ofWord, TexCoord.ofWord_word, TexCoord.word_upper]
    rfl

/-- A corner behind the first is read with the colour that is meant for it. -/
theorem PolygonDraft.readCorner_words (d : PolygonDraft) (p : Point) (rest : List UInt32) :
    Polygon.readCorner d.style offset d.first.color (p.words d.gouraud d.textured ++ rest) =
      some (p.reading offset (d.shade p) d.textured, rest) := by
  have hread := p.readPlace_placeWords offset d.textured (d.shade p) rest
  cases hgouraud : d.gouraud with
  | false =>
    simp only [shade, hgouraud, Bool.false_eq_true, if_false] at hread
    simp only [Polygon.readCorner, style, shade, hgouraud, Bool.false_eq_true, if_false]
    exact hread
  | true =>
    simp only [shade, hgouraud, if_true] at hread
    simp only [Polygon.readCorner, style, shade, Point.words, hgouraud, if_true, List.cons_append,
      List.nil_append, Color.ofWord_word]
    exact hread

/-- **A polygon** is read as it was written. -/
theorem PolygonDraft.ofWords_operands (d : PolygonDraft) (top : UInt8) :
    Polygon.ofWords? d.style offset clip (d.first.color.word top :: d.operands) =
      some (d.polygon offset clip) := by
  have hfirst := d.first.readPlace_placeWords offset d.textured d.first.color
  have hsecond := d.readCorner_words offset d.second
  have hthird := d.readCorner_words offset d.third
  rw [Polygon.ofWords?, Color.ofWord_word, operands]
  show Option.bind (Polygon.readPlace d.textured offset d.first.color _) _ = _
  rw [hfirst, Option.bind_some]
  show Option.bind (Polygon.readCorner d.style offset d.first.color _) _ = _
  rw [hsecond, Option.bind_some]
  show Option.bind (Polygon.readCorner d.style offset d.first.color _) _ = _
  rw [hthird, Option.bind_some]
  -- the upper halves of the texel words matter with a texture only
  have htexture : (if d.textured then
        some (TextureMapping.mk (d.first.reading offset d.first.color d.textured).upper
          (d.second.reading offset (d.shade d.second) d.textured).upper d.raw)
      else none) =
      if d.textured then some ⟨d.first.upper, d.second.upper, d.raw⟩ else none := by
    cases d.textured <;> rfl
  cases hfourth : d.fourth with
  | none =>
    simp only [style, polygon, hfourth, Option.isSome_none, Bool.false_eq_true, if_false,
      Option.map_none, htexture]
    rfl
  | some fourth =>
    have hread := d.readCorner_words offset fourth []
    rw [List.append_nil] at hread
    simp only [Option.map_some, Option.getD_some, hread]
    simp only [style, polygon, hfourth, Option.isSome_some, if_true, Option.map_some, htexture]
    rfl

/-- **A line** is read as it was written. -/
theorem LineDraft.ofWords_operands (d : LineDraft) (top : UInt8) :
    Line.ofWords? d.style offset clip (d.start.color.word top :: d.operands) =
      some (d.line offset clip) := by
  cases hgouraud : d.gouraud with
  | false =>
    simp only [Line.ofWords?, style, line, operands, Point.words, Point.placeWords, hgouraud,
      Bool.false_eq_true, if_false, List.cons_append, List.nil_append, Option.bind_eq_bind,
      Option.bind_some, Color.ofWord_word, Point.moveBy_ofWord]
  | true =>
    simp only [Line.ofWords?, style, line, operands, Point.words, Point.placeWords, hgouraud,
      if_true, Bool.false_eq_true, if_false, List.cons_append, List.nil_append,
      Option.bind_eq_bind, Option.bind_some, Color.ofWord_word, Point.moveBy_ofWord]

/-- **A rectangle** is read as it was written. -/
theorem RectangleDraft.ofWords_operands (d : RectangleDraft) (page : UInt16) (top : UInt8) :
    Rectangle.ofWords? d.style page offset clip (d.corner.color.word top :: d.operands) =
      some (d.rectangle page offset clip) := by
  have htexture : Rectangle.readTexture d.style page
        ((if d.textured then [d.corner.texel.word d.corner.upper] else []) ++ d.size.words) =
      some (if d.textured then some ⟨d.corner.upper, page, d.raw⟩ else none,
        if d.textured then d.corner.texel else {}, d.size.words) := by
    cases htextured : d.textured with
    | false => simp only [Rectangle.readTexture, style, htextured, Bool.false_eq_true, if_false,
        List.nil_append]
    | true => simp only [Rectangle.readTexture, style, htextured, if_true, List.cons_append,
        List.nil_append, TexCoord.ofWord_word, TexCoord.word_upper]
  have hsize : Rectangle.dimensions d.style.size d.size.words = some d.size.dimensions := by
    show Rectangle.dimensions d.size.size d.size.words = _
    cases d.size with
    | given width height =>
      obtain ⟨hwidth, hheight⟩ := field_sizeWord width height
      show some (Word.field (sizeWord width height) 0 10,
        Word.field (sizeWord width height) 16 9) = _
      rw [hwidth, hheight]
      rfl
    | _ => rfl
  show Option.bind (Rectangle.readTexture d.style page (_ ++ d.size.words)) _ = _
  rw [htexture, Option.bind_some]
  show Option.bind (Rectangle.dimensions d.style.size d.size.words) _ = _
  rw [hsize, Option.bind_some, Point.moveBy_ofWord, Color.ofWord_word]
  rfl

end Operands

/-! ## Primitives -/

/-- A primitive as it is written. -/
inductive Primitive where
  | polygon (draft : PolygonDraft)
  | line (draft : LineDraft)
  | rectangle (draft : RectangleDraft)

/-- The texture page that a status word names, in the layout of a primitive. -/
def pageOf (status : UInt32) : UInt16 :=
  let page := (status &&& 0x1FF).toUInt16
  if bit status 15 then page ||| 0x800 else page

/-- The page that software reads is the one in force. -/
theorem pageOf_statusWord (g : Gpu) : pageOf g.statusWord = g.currentPage := by
  have hpage : g.statusWord &&& 0x1FF = g.status.bits &&& 0x1FF := by
    rw [statusWord, Status.mask_put _ _ _ (by decide), Status.mask_put _ _ _ (by decide),
      Status.mask_put _ _ _ (by decide), Status.mask_put _ _ _ (by decide)]
  have hdisable : bit g.statusWord 15 = g.status.has .textureDisable := by
    simp only [statusWord, bit_put _ _ _ (n := 15) (by decide)]
    rfl
  rw [pageOf, hpage, hdisable, currentPage]

namespace Primitive

def command : Primitive → Command
  | .polygon d => .polygon d.style
  | .line d => .line d.style
  | .rectangle d => .rectangle d.style

/-- The word in front: the command byte above the first colour. -/
def commandWord : Primitive → UInt32
  | .polygon d => d.first.color.word d.style.code
  | .line d => d.start.color.word (d.style.code d.spare)
  | .rectangle d => d.corner.color.word d.style.code

def operands : Primitive → List UInt32
  | .polygon d => d.operands
  | .line d => d.operands
  | .rectangle d => d.operands

/-- All its words. -/
def words (p : Primitive) : List UInt32 := p.commandWord :: p.operands

/-- What the renderer is to be told, under the settings of a GPU. -/
def call (g : Gpu) : Primitive → RenderCall
  | .polygon d => .polygon (d.polygon g.drawingOffset g.drawingArea)
  | .line d => .line (d.line g.drawingOffset g.drawingArea)
  | .rectangle d => .rectangle (d.rectangle (pageOf g.statusWord) g.drawingOffset g.drawingArea)

/-- The GPU when the primitive is drawn: the page of a textured polygon has come into force. -/
def settle (g : Gpu) : Primitive → Gpu
  | .polygon d => if d.textured then g.adoptPage d.second.upper else g
  | .line _ | .rectangle _ => g

variable (p : Primitive)

theorem ofWord_commandWord : Command.ofWord p.commandWord = p.command := by
  cases p with
  | polygon d => exact Command.ofWord_polygon d.first.color d.style
  | line d => exact Command.ofWord_line d.start.color d.style d.spare
  | rectangle d => exact Command.ofWord_rectangle d.corner.color d.size.size_mem

/-- A command is as long as the list of its words. -/
theorem length_words : p.command.length = p.words.length := by
  rw [words, List.length_cons]
  cases p with
  | polygon d => exact d.length_operands
  | line d => exact d.length_operands
  | rectangle d => exact d.length_operands

/-- **Executed**, the words tell the renderer of the primitive. -/
theorem execute_words (g : Gpu) :
    g.execute p.command p.words = (p.settle g).render (p.call g) := by
  cases p with
  | polygon d =>
    have hread : Polygon.ofWords? d.style g.drawingOffset g.drawingArea (polygon d).words =
        some (d.polygon g.drawingOffset g.drawingArea) := d.ofWords_operands _ _ _
    show g.drawPolygon d.style (polygon d).words = _
    rw [drawPolygon, hread]
    cases htextured : d.textured with
    | false =>
      simp only [PolygonDraft.polygon, settle, call, htextured, Bool.false_eq_true, if_false]
    | true =>
      simp only [PolygonDraft.polygon, settle, call, htextured, if_true]
  | line d =>
    have hread : Line.ofWords? d.style g.drawingOffset g.drawingArea (line d).words =
        some (d.line g.drawingOffset g.drawingArea) := d.ofWords_operands _ _ _
    show g.drawLine d.style (line d).words = _
    rw [drawLine, hread]
    rfl
  | rectangle d =>
    have hread : Rectangle.ofWords? d.style g.currentPage g.drawingOffset g.drawingArea
        (rectangle d).words = some (d.rectangle g.currentPage g.drawingOffset g.drawingArea) :=
      d.ofWords_operands _ _ _ _
    show g.drawRectangle d.style (rectangle d).words = _
    rw [drawRectangle, hread, call, pageOf_statusWord]
    rfl

theorem isDrawing_call (g : Gpu) : (p.call g).isDrawing = true := by cases p <;> rfl

theorem interruptRequested_settle (g : Gpu) :
    (p.settle g).interruptRequested = g.interruptRequested := by
  cases p with
  | polygon d =>
    rw [settle]
    split <;> rfl
  | line d => rfl
  | rectangle d => rfl

theorem renderer_settle (g : Gpu) : (p.settle g).renderer = g.renderer := by
  cases p with
  | polygon d =>
    rw [settle]
    split <;> rfl
  | line d => rfl
  | rectangle d => rfl

/-- **One bite** takes the words of a primitive, whatever is behind them. -/
theorem next?_words {g : Gpu} (hquiet : g.interruptRequested = false) (hidle : g.intake = .command)
    (more : List UInt32) (irqs : Nat) :
    Stream.next? ⟨g.core, p.words ++ more, irqs⟩ =
      some ⟨((p.settle g).render (p.call g)).core, more, irqs⟩ := by
  have hwants : g.core.intake.appetite p.commandWord = p.operands.length + 1 := by
    show g.intake.appetite p.commandWord = _
    rw [hidle, Intake.appetite, ofWord_commandWord, length_words]
    rfl
  have hdigest : g.core.digest p.commandWord p.words g.core.intake =
      ((p.settle g).render (p.call g)).core := by
    show g.core.digest p.commandWord p.words g.intake = _
    rw [← core_digest, hidle, digest, ofWord_commandWord, execute_words]
  have hafter : ((p.settle g).render (p.call g)).core.interruptRequested = false :=
    (p.interruptRequested_settle g).trans hquiet
  exact Stream.next?_of_digest p.operands hwants hdigest hafter more irqs

end Primitive

/-! ## Written and drawn -/

/-- Words for which there is room join those that wait. -/
theorem performAll_queue (words : List UInt32) : ∀ {g : Gpu}, g.Sound →
    g.fifo.size + words.length ≤ fifoCapacity →
    (g.performAll (words.map .queue)).fifo.toList = g.fifo.toList ++ words ∧
    (g.performAll (words.map .queue)).core = g.core := by
  induction words with
  | nil =>
    intro g hg _
    exact ⟨(List.append_nil _).symm, rfl⟩
  | cons w words ih =>
    intro g hg hroom
    rw [List.length_cons] at hroom
    have hfull : g.fifo.isFull = false := by
      rw [CommandFifo.isFull, beq_eq_false_iff_ne]
      omega
    have hpush : (g.queue w).fifo.toList = g.fifo.toList ++ [w] :=
      CommandFifo.toList_push hg.fifo hfull w
    have hsize : (g.queue w).fifo.size = g.fifo.size + 1 := by
      rw [← CommandFifo.length_toList, hpush, List.length_append, CommandFifo.length_toList]
      rfl
    have hrest : (g.queue w).fifo.size + words.length ≤ fifoCapacity := by omega
    obtain ⟨hlist, hcore⟩ := ih (hg.perform (.queue w)) hrest
    refine ⟨hlist.trans ?_, hcore⟩
    show (g.queue w).fifo.toList ++ words = _
    rw [hpush, List.append_assoc]
    rfl

/-- Told of a primitive, a recording renderer keeps it behind the others. -/
theorem drawings_receive (calls : Array RenderCall) {call : RenderCall}
    (h : call.isDrawing = true) :
    ((Renderer.recording calls).receive call).drawings =
      (Renderer.recording calls).drawings.push call := by
  show (calls.push call).filter RenderCall.isDrawing = _
  rw [Array.filter_push, if_pos h]
  rfl

/-- **What is written is drawn.**  The words of a primitive are as many as the command that they
begin is long, and twelve at most.  Written to a GPU that has nothing to do, they are taken by one
step, and none of those behind them.  The renderer is told of that primitive and of no other, and
but for the texture page nothing else has changed. -/
theorem step_primitive {g : Gpu} (hg : Reachable g) (hidle : g.intake = .command)
    (hempty : g.fifo.toList = []) (p : Primitive) (more : List UInt32)
    (hroom : (p.words ++ more).length ≤ fifoCapacity) :
    let after := (g.performAll ((p.words ++ more).map .queue)).step.2
    (Command.ofWord p.commandWord).length = p.words.length ∧ p.words.length ≤ 12 ∧
    after.fifo.toList = more ∧
    after.core = ((p.settle g).render (p.call g)).core ∧
    ∀ calls, g.renderer = .recording calls →
      after.renderer.drawings = g.renderer.drawings.push (p.call g) := by
  intro after
  have hsize : g.fifo.size = 0 := by rw [← CommandFifo.length_toList, hempty, List.length_nil]
  obtain ⟨hlist, hcore⟩ := performAll_queue (p.words ++ more) hg.sound (by omega)
  have hstream : (g.performAll ((p.words ++ more).map .queue)).stream 0 =
      ⟨g.core, p.words ++ more, 0⟩ := by
    rw [stream, hlist, hcore, hempty]
    rfl
  have hwritten : Reachable (g.performAll ((p.words ++ more).map .queue)) := hg.performAll
  have hstep := stream_step hwritten.sound.quiet 0
  rw [hstream, p.next?_words hg.sound.quiet hidle, Option.getD_some] at hstep
  have hafter : after.core = ((p.settle g).render (p.call g)).core := congrArg Stream.gpu hstep
  refine ⟨?_, ?_, congrArg Stream.words hstep, hafter, ?_⟩
  · rw [p.ofWord_commandWord, p.length_words]
  · rw [← p.length_words]
    exact Command.length_le p.command
  · intro calls hcalls
    have hdrawn : after.renderer.drawn.calls =
        ((p.settle g).render (p.call g)).renderer.drawn.calls :=
      congrArg (fun c => c.renderer.calls) hafter
    rw [Renderer.drawings_eq, hdrawn, ← Renderer.drawings_eq]
    show ((p.settle g).renderer.receive (p.call g)).drawings = _
    rw [p.renderer_settle, hcalls, drawings_receive calls (p.isDrawing_call g)]

/-- A shaded quad with a texture takes all the room there is.  Its first place lies above and to the
left of the drawing area, and the drawing offset brings it in. -/
theorem step_primitive_quad :
    let start := Gpu.performAll {} [.attach .recorder, .queue 0xE5008010, .step]
    let draft : PolygonDraft :=
      { first := ⟨⟨-16, -16, by decide, by decide, 0, 0⟩, ⟨1, 2, 3⟩, 0, ⟨0, 0⟩, 0x7FC0⟩
        second := ⟨⟨64, -16, by decide, by decide, 31, 0⟩, ⟨4, 5, 6⟩, 0, ⟨64, 0⟩, 0x0105⟩
        third := ⟨⟨-16, 64, by decide, by decide, 0, 31⟩, ⟨7, 8, 9⟩, 0x55, ⟨0, 64⟩, 0xFFFF⟩
        fourth := some ⟨⟨64, 64, by decide, by decide, 0, 0⟩, ⟨10, 11, 12⟩, 0, ⟨64, 64⟩, 0⟩
        gouraud := true, textured := true, semiTransparent := true, raw := false }
    let quad := Primitive.polygon draft
    let after := (start.performAll ((quad.words ++ []).map .queue)).step.2
    quad.words =
      [0x3E030201, 0x07F007F0, 0x7FC00000, 0x00060504, 0x07F0F840, 0x01050040,
        0x55090807, 0xF84007F0, 0xFFFF4000, 0x000C0B0A, 0x00400040, 0x00004040] ∧
    (Command.ofWord quad.commandWord).length = 12 ∧ after.fifo.toList = [] ∧
    after.renderer.drawings = #[quad.call start] ∧
    (draft.polygon start.drawingOffset start.drawingArea).corners.map Corner.position =
      [⟨0, 0⟩, ⟨80, 0⟩, ⟨0, 80⟩, ⟨80, 80⟩] := by
  intro start draft quad after
  have hstart : Reachable start := Reachable.performAll .powerOn
  have hrenderer : start.renderer = .recording #[] := rfl
  obtain ⟨hlength, -, hfifo, -, hdrawn⟩ := step_primitive hstart (by decide +kernel)
    (by decide +kernel) quad [] (by decide +kernel)
  have hdrawings := hdrawn #[] hrenderer
  rw [hrenderer] at hdrawings
  exact ⟨by decide +kernel, hlength, hfifo, hdrawings, by decide +kernel⟩

end PlayStation.Gpu

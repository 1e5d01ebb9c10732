/-
  The TEXTURE PAGE that the renderer is told, and the one in force.

  A textured primitive tells the renderer of its texture page in the layout of the status word: nine
  bits of page, blending and depth, and in bit 11 whether textures are disabled, which the status
  word has in bit 15 (`IsPage`).

  1. **One step** (`step_command`) runs the command that is waiting, whatever the beam does.

  2. **A rectangle** has the page in force (`bit_currentPage`), so it shows what the status word says.

  3. **A polygon** brings its page with it.  The nine bits come into force (`bit_adoptPage`), but the
     renderer is told of all sixteen as they were written.  So what it is told is the page in force
     just if nothing is written to the other bits, and bit 11 is what the status word has there
     already or may be told to have (`step_textured`).  Otherwise it is not (`page_asWritten`).
-/
import PlayStation.Proofs.Gpu.Primitives

namespace PlayStation.Gpu

open Word (bit)

/-! ## Pages -/

/-- A texture page is the one of a status word, in the layout of that word. -/
def IsPage (page : UInt16) (status : UInt32) : Prop :=
  ∀ n < 16, bit page.toUInt32 n =
    if n < 9 then bit status n else if n = 11 then bit status 15 else false

/-- The texture that a render call carries. -/
def RenderCall.texture? : RenderCall → Option TextureMapping
  | .polygon p => p.texture
  | .rectangle r => r.texture
  | .line _ | .displayStart _ _ | .endFrame _ => none

/-- The nine low flags. -/
theorem bit_lowNine {n : UInt32} (hn : n < 32) : bit 0x1FF n = decide (n < 9) :=
  Word.forall_place (P := fun n => bit 0x1FF n = decide (n < 9)) (by decide) n hn

/-- The page in force, flag by flag. -/
theorem bit_currentPage (g : Gpu) {n : UInt32} (hn : n < 16) :
    bit g.currentPage.toUInt32 n =
      if n < 9 then bit g.status.bits n else if n = 11 then bit g.status.bits 15 else false := by
  have hlt : n < 32 := UInt32.lt_trans hn (by decide)
  have hlow : bit (g.status.bits &&& 0x1FF).toUInt16.toUInt32 n =
      (bit g.status.bits n && decide (n < 9)) := by
    rw [Word.bit_toUInt16 _ hn, Word.bit_and, bit_lowNine hlt]
  have heleven : bit 0x800 n = decide (n = 11) :=
    Word.forall_place (P := fun n => bit 0x800 n = decide (n = 11)) (by decide) n hlt
  have hdisable : g.status.has .textureDisable = bit g.status.bits 15 := rfl
  unfold currentPage
  split
  · next hset =>
    have hor : ((g.status.bits &&& 0x1FF).toUInt16 ||| 0x800).toUInt32 =
        (g.status.bits &&& 0x1FF).toUInt16.toUInt32 ||| 0x800 := UInt16.toUInt32_or _ _
    rw [hor, Word.bit_or, hlow, heleven, ← hdisable, hset]
    by_cases hflag : n = 11
    · simp [hflag]
    · by_cases hpage : n < 9 <;> simp [hpage, hflag]
  · next hclear =>
    rw [Bool.not_eq_true] at hclear
    rw [hlow, ← hdisable, hclear]
    by_cases hpage : n < 9 <;> simp [hpage]

/-- What a polygon's page brings into force. -/
theorem bit_adoptPage (g : Gpu) (page : UInt16) {n : UInt32} (hn : n < 9) :
    bit (g.adoptPage page).status.bits n = bit page.toUInt32 n := by
  have hlt : n < 32 := UInt32.lt_trans hn (by decide)
  have hother : n ≠ 15 := by rintro rfl; revert hn; decide
  have hmerge : bit (Word.merge g.status.bits 0x1FF page.toUInt32) n = bit page.toUInt32 n := by
    rw [Word.bit_merge, bit_lowNine hlt, decide_eq_true hn, if_pos rfl]
  unfold adoptPage
  simp only
  split
  · rw [bit_put _ _ _ hlt]
    exact (if_neg hother).trans hmerge
  · exact hmerge

theorem bit_adoptPage_disable (g : Gpu) (page : UInt16) :
    bit (g.adoptPage page).status.bits 15 =
      if g.textureDisableAllowed then bit page.toUInt32 11 else bit g.status.bits 15 := by
  have hmerge : bit (Word.merge g.status.bits 0x1FF page.toUInt32) 15 = bit g.status.bits 15 := by
    rw [Word.bit_merge, bit_lowNine (by decide)]
    rfl
  unfold adoptPage
  simp only
  split
  · rw [bit_put _ _ _ (by decide)]
    rfl
  · exact hmerge

/-- Beside the interlace field, the low half of the status word is part of the core. -/
theorem bit_statusWord (g : Gpu) {n : UInt32} (hn : n < 16) (hfield : n ≠ 13) :
    bit g.statusWord n = bit g.core.status.bits n := by
  have hlt : n < 32 := UInt32.lt_trans hn (by decide)
  have hne : ∀ m : UInt32, 16 ≤ m → n ≠ m := by
    rintro m hm rfl
    exact absurd hn (UInt32.not_lt.2 hm)
  show _ = bit g.status.fieldless.bits n
  rw [Status.bit_fieldless _ hlt, if_neg hfield]
  simp only [statusWord, bit_put _ _ _ hlt, StatusFlag.position, hne 31 (by decide),
    hne 28 (by decide), hne 26 (by decide), hne 25 (by decide), if_false]

/-! ## Textured commands -/

/-- Under this mask a command byte shows the family, and whether there is a texture. -/
def textureMask : UInt32 := 0xE4

theorem ofWord_texturedPolygon {w : UInt32} (h : w >>> 24 &&& textureMask = 0x24) :
    Command.ofWord w = .polygon (.ofWord w) ∧ (PolygonStyle.ofWord w).textured = true := by
  have hfamily := family_of_masked h (by decide)
  have htextured : bit w 26 = true := flag_of_masked h (n := 2) (by decide) (by decide) (by decide)
  refine ⟨?_, htextured⟩
  rw [Command.ofWord, hfamily, code_ne_of_masked h (by decide), code_ne_of_masked h (by decide)]
  rfl

theorem ofWord_texturedRectangle {w : UInt32} (h : w >>> 24 &&& textureMask = 0x64) :
    Command.ofWord w = .rectangle (.ofWord w) ∧ (RectangleStyle.ofWord w).textured = true := by
  have hfamily := family_of_masked h (by decide)
  have htextured : bit w 26 = true := flag_of_masked h (n := 2) (by decide) (by decide) (by decide)
  refine ⟨?_, htextured⟩
  rw [Command.ofWord, hfamily, code_ne_of_masked h (by decide), code_ne_of_masked h (by decide)]
  rfl

section Reading

variable (offset : Vertex)

/-- How many words a textured corner behind the first one takes. -/
def PolygonStyle.stride (s : PolygonStyle) : Nat := if s.gouraud then 3 else 2

/-- A textured corner is there when its words are, and its texel word is the last of them. -/
theorem readCorner_textured {style : PolygonStyle} (htextured : style.textured = true)
    (color : Color) (words : List UInt32) (hroom : style.stride ≤ words.length) :
    ∃ corner, Polygon.readCorner style offset color words =
      some (⟨corner, (words.getD (style.stride - 1) 0 >>> 16).toUInt16⟩,
        words.drop style.stride) := by
  unfold PolygonStyle.stride at hroom ⊢
  cases hgouraud : style.gouraud with
  | false =>
    rw [hgouraud, if_neg Bool.false_ne_true] at hroom
    obtain _ | ⟨place, _ | ⟨texel, rest⟩⟩ := words
    · simp at hroom
    · simp at hroom
    · exact ⟨_, by rw [Polygon.readCorner, hgouraud, htextured]; rfl⟩
  | true =>
    rw [hgouraud, if_pos rfl] at hroom
    obtain _ | ⟨shade, _ | ⟨place, _ | ⟨texel, rest⟩⟩⟩ := words
    · simp at hroom
    · simp at hroom
    · simp at hroom
    · exact ⟨_, by rw [Polygon.readCorner, hgouraud, htextured]; rfl⟩

/-- The words of a textured polygon: command, place and texel of the first corner, and the others
one stride each. -/
theorem length_textured {style : PolygonStyle} (htextured : style.textured = true) :
    style.length = 3 + (style.corners - 1) * style.stride := by
  obtain ⟨_ | _, _ | _, _, semiTransparent, raw⟩ := style <;> subst htextured <;> rfl

/-- **A textured polygon** is read from its words.  Its page is the upper half of the second texel
word. -/
theorem ofWords?_textured {style : PolygonStyle} (htextured : style.textured = true)
    (clip : DrawingArea) {words : List UInt32} (hlength : words.length = style.length) :
    ∃ polygon texture, Polygon.ofWords? style offset clip words = some polygon ∧
      polygon.texture = some texture ∧
      texture.page = (words.getD (2 + style.stride) 0 >>> 16).toUInt16 := by
  rw [length_textured htextured] at hlength
  have hthree : 3 ≤ words.length := by omega
  obtain _ | ⟨command, _ | ⟨place, _ | ⟨texel, rest⟩⟩⟩ := words
  iterate 3 · simp at hthree
  have hrest : rest.length = (style.corners - 1) * style.stride := by
    simp only [List.length_cons] at hlength
    omega
  have hcorners : style.corners - 1 = if style.quad then 3 else 2 := by
    unfold PolygonStyle.corners
    split <;> rfl
  have hstride : ∃ n, style.stride = n + 1 := by
    unfold PolygonStyle.stride
    split
    · exact ⟨2, rfl⟩
    · exact ⟨1, rfl⟩
  obtain ⟨n, hn⟩ := hstride
  rw [hcorners] at hrest
  have htwo : 2 * style.stride ≤ rest.length := by
    rw [hrest]
    split <;> omega
  obtain ⟨second, hsecond⟩ :=
    readCorner_textured offset htextured (Color.ofWord command) rest (by omega)
  obtain ⟨third, hthird⟩ := readCorner_textured offset htextured (Color.ofWord command)
    (rest.drop style.stride) (by rw [List.length_drop]; omega)
  have hpage : (command :: place :: texel :: rest).getD (2 + style.stride) 0 =
      rest.getD (style.stride - 1) 0 := by
    rw [hn, show 2 + (n + 1) = n + 1 + 1 + 1 by omega]
    rfl
  rw [hpage, Polygon.ofWords?, htextured]
  simp only [Polygon.readPlace, if_true, Option.bind_eq_bind, Option.bind_some, hsecond, hthird]
  cases hquad : style.quad with
  | false => exact ⟨_, _, rfl, rfl, rfl⟩
  | true =>
    rw [hquad, if_pos rfl] at hrest
    obtain ⟨fourth, hfourth⟩ := readCorner_textured offset htextured (Color.ofWord command)
      ((rest.drop style.stride).drop style.stride)
      (by rw [List.length_drop, List.length_drop]; omega)
    rw [hfourth]
    exact ⟨_, _, rfl, rfl, rfl⟩

/-- **A textured rectangle** is read from its words, with the page that it is given. -/
theorem Rectangle.ofWords?_textured {style : RectangleStyle} (htextured : style.textured = true)
    (page : UInt16) (clip : DrawingArea) {words : List UInt32}
    (hlength : words.length = style.length) :
    ∃ rectangle texture, Rectangle.ofWords? style page offset clip words = some rectangle ∧
      rectangle.texture = some texture ∧ texture.page = page := by
  rw [RectangleStyle.length, htextured, if_pos rfl] at hlength
  have hthree : 3 ≤ words.length := by omega
  obtain _ | ⟨command, _ | ⟨place, _ | ⟨texel, rest⟩⟩⟩ := words
  iterate 3 · simp at hthree
  simp only [List.length_cons] at hlength
  obtain ⟨dimensions, hdimensions⟩ : ∃ d, Rectangle.dimensions style.size rest = some d := by
    cases hsize : style.size with
    | square side => exact ⟨_, rfl⟩
    | given =>
      rw [hsize, if_pos rfl] at hlength
      obtain _ | ⟨size, rest⟩ := rest
      · simp at hlength
      · exact ⟨_, rfl⟩
  rw [Rectangle.ofWords?, Rectangle.readTexture, htextured]
  simp only [if_true, Option.bind_eq_bind, Option.bind_some, hdimensions]
  exact ⟨_, _, rfl, rfl, rfl⟩

/-- So it is drawn, and its page comes into force. -/
theorem execute_texturedPolygon (g : Gpu) {style : PolygonStyle}
    (htextured : style.textured = true) {words : List UInt32}
    (hlength : words.length = (Command.polygon style).length) :
    ∃ polygon texture,
      g.execute (.polygon style) words = (g.adoptPage texture.page).render (.polygon polygon) ∧
      polygon.texture = some texture ∧
      texture.page = (words.getD (2 + style.stride) 0 >>> 16).toUInt16 := by
  obtain ⟨polygon, texture, hread, htexture, hpage⟩ :=
    ofWords?_textured g.drawingOffset htextured g.drawingArea hlength
  refine ⟨polygon, texture, ?_, htexture, hpage⟩
  show g.drawPolygon style words = _
  rw [drawPolygon, hread]
  simp only [htexture]

theorem execute_texturedRectangle (g : Gpu) {style : RectangleStyle}
    (htextured : style.textured = true) {words : List UInt32}
    (hlength : words.length = (Command.rectangle style).length) :
    ∃ rectangle texture, g.execute (.rectangle style) words = g.render (.rectangle rectangle) ∧
      rectangle.texture = some texture ∧ texture.page = g.currentPage := by
  obtain ⟨rectangle, texture, hread, htexture, hpage⟩ :=
    Rectangle.ofWords?_textured g.drawingOffset htextured g.currentPage g.drawingArea hlength
  refine ⟨rectangle, texture, ?_, htexture, hpage⟩
  show g.drawRectangle style words = _
  rw [drawRectangle, hread]

end Reading

/-! ## One step -/

section Step

variable {g : Gpu} {first : UInt32} {rest : List UInt32}

/-- **The command that is waiting is run**, whatever else the GPU is doing: so one step leaves the
status, and what has been drawn. -/
theorem step_command {command : Command} (hidle : g.intake = .command)
    (hwaiting : g.fifo.toList = first :: rest) (hcommand : Command.ofWord first = command)
    (hcomplete : command.length ≤ (first :: rest).length) :
    g.step.2.core.status =
      (g.core.execute command ((first :: rest).take command.length)).status ∧
    g.step.2.renderer.drawn =
      (g.core.execute command ((first :: rest).take command.length)).renderer := by
  subst hcommand
  have hstep := g.core_step_of_command hidle hwaiting hcomplete
  constructor
  · rw [hstep]
  · show g.step.2.core.renderer = _
    rw [hstep]

end Step

/-! ## What the renderer is told -/

/-- A textured polygon or rectangle waits in front, with all its words. -/
structure NextTextured (g : Gpu) (first : UInt32) (rest : List UInt32) : Prop where
  idle : g.intake = .command
  waiting : g.fifo.toList = first :: rest
  textured : first >>> 24 &&& textureMask = 0x24 ∨ first >>> 24 &&& textureMask = 0x64
  complete : (Command.ofWord first).length ≤ (first :: rest).length

/-- With the low nine flags right, the others decide. -/
theorem isPage_iff {page : UInt16} {status : UInt32}
    (hnine : ∀ n < 9, bit page.toUInt32 n = bit status n) :
    IsPage page status ↔
      (∀ n < 16, 9 ≤ n → n ≠ 11 → bit page.toUInt32 n = false) ∧
      bit page.toUInt32 11 = bit status 15 := by
  constructor
  · intro hpage
    constructor
    · intro n hn hle hne
      have hflag := hpage n hn
      rwa [if_neg (UInt32.not_lt.2 hle), if_neg hne] at hflag
    · exact hpage 11 (by decide)
  · rintro ⟨hunused, hdisable⟩ n hn
    by_cases hlt : n < 9
    · rw [if_pos hlt]
      exact hnine n hlt
    · rw [if_neg hlt]
      split
      · next heleven =>
        rw [heleven]
        exact hdisable
      · next hne => exact hunused n hn (UInt32.not_lt.1 hlt) hne

section Step

variable {g : Gpu} {first : UInt32} {rest : List UInt32}

/-- **A textured polygon** brings nine flags of its page into force, and tells the renderer of all
sixteen. -/
theorem step_texturedPolygon (h : NextTextured g first rest)
    (hpolygon : first >>> 24 &&& textureMask = 0x24) :
    ∃ polygon texture,
      g.step.2.renderer.drawn = g.renderer.drawn.receive (.polygon polygon) ∧
      polygon.texture = some texture ∧
      texture.page =
        ((first :: rest).getD (2 + (PolygonStyle.ofWord first).stride) 0 >>> 16).toUInt16 ∧
      (∀ n < 9, bit texture.page.toUInt32 n = bit g.step.2.statusWord n) ∧
      bit g.step.2.statusWord 15 =
        if g.textureDisableAllowed then bit texture.page.toUInt32 11 else bit g.statusWord 15 := by
  obtain ⟨hcommand, htextured⟩ := ofWord_texturedPolygon hpolygon
  have hcomplete := h.complete
  rw [hcommand] at hcomplete
  obtain ⟨polygon, texture, hdraw, htexture, hpage⟩ :=
    execute_texturedPolygon g.core htextured (List.length_take_of_le hcomplete)
  obtain ⟨hstep, hdrawn⟩ := step_command h.idle h.waiting hcommand hcomplete
  have hstatus : g.step.2.core.status = (g.core.adoptPage texture.page).status := by
    rw [hstep, hdraw]
    rfl
  -- the page stands among the words that are taken
  have hplace : 2 + (PolygonStyle.ofWord first).stride <
      (Command.polygon (PolygonStyle.ofWord first)).length := by
    show _ < (PolygonStyle.ofWord first).length
    rw [length_textured htextured]
    unfold PolygonStyle.corners PolygonStyle.stride
    split <;> split <;> decide
  rw [List.getD_eq_getElem?_getD, List.getElem?_take_of_lt hplace, ← List.getD_eq_getElem?_getD]
    at hpage
  refine ⟨polygon, texture, ?_, htexture, hpage, ?_, ?_⟩
  · rw [hdrawn, hdraw]
    rfl
  · intro n hn
    have hne : n ≠ 13 := by rintro rfl; revert hn; decide
    rw [bit_statusWord _ (UInt32.lt_trans hn (by decide)) hne, hstatus, bit_adoptPage _ _ hn]
  · rw [bit_statusWord _ (by decide) (by decide), hstatus, bit_adoptPage_disable,
      bit_statusWord g (by decide) (by decide)]
    rfl

/-- **A textured rectangle** shows the renderer the page in force, and leaves it in force. -/
theorem step_texturedRectangle (h : NextTextured g first rest)
    (hrectangle : first >>> 24 &&& textureMask = 0x64) :
    ∃ rectangle texture,
      g.step.2.renderer.drawn = g.renderer.drawn.receive (.rectangle rectangle) ∧
      rectangle.texture = some texture ∧ IsPage texture.page g.step.2.statusWord := by
  obtain ⟨hcommand, htextured⟩ := ofWord_texturedRectangle hrectangle
  have hcomplete := h.complete
  rw [hcommand] at hcomplete
  obtain ⟨rectangle, texture, hdraw, htexture, hpage⟩ :=
    execute_texturedRectangle g.core htextured (List.length_take_of_le hcomplete)
  obtain ⟨hstep, hdrawn⟩ := step_command h.idle h.waiting hcommand hcomplete
  have hstatus : g.step.2.core.status = g.core.status := by
    rw [hstep, hdraw]
    rfl
  refine ⟨rectangle, texture, ?_, htexture, ?_⟩
  · rw [hdrawn, hdraw]
    rfl
  intro n hn
  rw [hpage, bit_currentPage g.core hn, ← hstatus, bit_statusWord _ (n := 15) (by decide) (by decide)]
  by_cases hlow : n < 9
  · have hne : n ≠ 13 := by rintro rfl; revert hlow; decide
    rw [if_pos hlow, if_pos hlow, bit_statusWord _ hn hne]
  · rw [if_neg hlow, if_neg hlow]

/-- **The page that the renderer is told** with a textured primitive.  Its low nine flags are those
of the status word behind the step.  With a rectangle it is the page in force.  With a polygon it is
the upper half of the second texel word, as it was written; and that is the page in force just if
nothing is written to the flags that no page has, and flag 11 says of the textures what is allowed
to be said, or is so already. -/
theorem step_textured (h : NextTextured g first rest) :
    ∃ call texture,
      g.step.2.renderer.drawn = g.renderer.drawn.receive call ∧ call.texture? = some texture ∧
      (∀ n < 9, bit texture.page.toUInt32 n = bit g.step.2.statusWord n) ∧
      (first >>> 24 &&& textureMask = 0x64 → IsPage texture.page g.step.2.statusWord) ∧
      (first >>> 24 &&& textureMask = 0x24 →
        texture.page =
          ((first :: rest).getD (2 + (PolygonStyle.ofWord first).stride) 0 >>> 16).toUInt16 ∧
        (IsPage texture.page g.step.2.statusWord ↔
          (∀ n < 16, 9 ≤ n → n ≠ 11 → bit texture.page.toUInt32 n = false) ∧
          (g.textureDisableAllowed = true ∨
            bit texture.page.toUInt32 11 = bit g.statusWord 15))) := by
  rcases h.textured with hpolygon | hrectangle
  · obtain ⟨polygon, texture, hdrawn, htexture, hpage, hnine, hdisable⟩ :=
      step_texturedPolygon h hpolygon
    refine ⟨.polygon polygon, texture, hdrawn, htexture, hnine, ?_, ?_⟩
    · intro hrectangle
      rw [hpolygon] at hrectangle
      exact absurd hrectangle (by decide)
    · intro _
      refine ⟨hpage, ?_⟩
      rw [isPage_iff hnine, hdisable]
      cases g.textureDisableAllowed <;> simp
  · obtain ⟨rectangle, texture, hdrawn, htexture, hpage⟩ := step_texturedRectangle h hrectangle
    refine ⟨.rectangle rectangle, texture, hdrawn, htexture, ?_, fun _ => hpage, ?_⟩
    · intro n hn
      have hflag := hpage n (UInt32.lt_trans hn (by decide))
      rwa [if_pos hn] at hflag
    · intro hpolygon
      rw [hrectangle] at hpolygon
      exact absurd hpolygon (by decide)

end Step

/-- A triangle whose page disables textures, which has been allowed. -/
theorem step_textured_disabling :
    let g := Gpu.performAll {} [.attach .recorder, .control 0x09000001, .queue 0x24808080,
      .queue 0x00000000, .queue 0x7FC00000, .queue 0x00000010, .queue 0x09850010,
      .queue 0x00100000, .queue 0x00001000]
    ∃ call texture, g.step.2.renderer.drawn = (Renderer.recording #[]).receive call ∧
      call.texture? = some texture ∧ texture.page = 0x0985 ∧
      IsPage texture.page g.step.2.statusWord := by
  intro g
  have hnext : NextTextured g 0x24808080 [0x00000000, 0x7FC00000, 0x00000010, 0x09850010,
      0x00100000, 0x00001000] :=
    { idle := by decide +kernel
      waiting := by decide +kernel
      textured := .inl (by decide +kernel)
      complete := by decide +kernel }
  obtain ⟨call, texture, hdrawn, htexture, -, -, hpolygon⟩ := step_textured hnext
  obtain ⟨hpage, hiff⟩ := hpolygon (by decide +kernel)
  have hpage' : texture.page = 0x0985 := hpage.trans (by decide +kernel)
  refine ⟨call, texture, hdrawn, htexture, hpage', hiff.2 ⟨?_, .inl (by decide +kernel)⟩⟩
  rw [hpage']
  intro n hn
  exact Word.forall_place
    (P := fun n => 9 ≤ n → n ≠ 11 → bit (0x0985 : UInt16).toUInt32 n = false) (by decide) n
    (UInt32.lt_trans hn (by decide))

/-- The same triangle with another page, and without the permission.  The page in force is 5 and
textures stay enabled, but the renderer is told of 0x0A05: of a flag that no page has, and of disabled
textures. -/
theorem page_asWritten :
    let g := Gpu.performAll {} [.attach .recorder, .queue 0x24808080, .queue 0x00000000,
      .queue 0x7FC00000, .queue 0x00000010, .queue 0x0A050010, .queue 0x00100000,
      .queue 0x00001000]
    ∃ call texture, g.step.2.renderer.drawn = (Renderer.recording #[]).receive call ∧
      call.texture? = some texture ∧ texture.page = 0x0A05 ∧
      pageOf g.step.2.statusWord = 0x0005 ∧ ¬IsPage texture.page g.step.2.statusWord := by
  intro g
  have hnext : NextTextured g 0x24808080 [0x00000000, 0x7FC00000, 0x00000010, 0x0A050010,
      0x00100000, 0x00001000] :=
    { idle := by decide +kernel
      waiting := by decide +kernel
      textured := .inl (by decide +kernel)
      complete := by decide +kernel }
  obtain ⟨polygon, texture, hdrawn, htexture, hpage, -⟩ :=
    step_texturedPolygon hnext (by decide +kernel)
  have hpage' : texture.page = 0x0A05 := hpage.trans (by decide +kernel)
  refine ⟨.polygon polygon, texture, hdrawn, htexture, hpage', by decide +kernel, ?_⟩
  rw [hpage']
  intro hall
  exact absurd (hall 9 (by decide)) (by decide +kernel)

end PlayStation.Gpu

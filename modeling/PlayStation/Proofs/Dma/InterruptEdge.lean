/-
  The EDGE of the interrupt signal.

  A step reports a rise of the signal, so that the interrupt can be requested.  It looks at the
  signal once, at its end, and compares with what the step before saw there.  Writes of registers
  move the signal in between: an acknowledge takes it down, and the same step may bring it up again.

  1. **What there was to see** is a list: the levels of the signal from the end of a step on
     (`Watch`).  An edge is there when a low level is followed by a high one (`Rises`).

  2. **What a step sees** of it are the first level and the last (`head?_levels_watch`,
     `edge_step`).

  3. So what is reported was there, and what was there is reported just when the signal was down at
     the end of the step before (`edge_watch`).  An edge behind an acknowledge is lost when no step
     comes in between (`edge_lost`).
-/
import PlayStation.Proofs.Dma.Reachable

namespace PlayStation.Dma

/-! ## Levels -/

/-- A low level is followed by a high one. -/
def Rises (levels : List Bool) : Prop := [false, true] <:+: levels

instance (levels : List Bool) : Decidable (Rises levels) :=
  inferInstanceAs (Decidable (_ <:+: _))

/-- From a low level to a high one, somewhere it rises. -/
theorem rises_of_ends {levels : List Bool} (hfirst : levels.head? = some false)
    (hlast : levels.getLast? = some true) : Rises levels := by
  induction levels with
  | nil => cases hfirst
  | cons level levels ih =>
    obtain rfl : level = false := Option.some.inj hfirst
    cases levels with
    | nil => cases hlast
    | cons second rest =>
      cases second with
      | true => exact (List.prefix_append [false, true] rest).isInfix
      | false =>
        have hrest : (false :: rest).getLast? = some true := by
          rwa [List.getLast?_cons_cons] at hlast
        exact List.infix_cons (ih rfl hrest)

/-! ## Watching a controller -/

/-- A controller, with the levels that its interrupt signal had since the end of its last step, or
since it was reset. -/
structure Watch where
  dma : Dma
  levels : List Bool

/-- What is left of the levels so far when an operation begins. -/
def Operation.past (o : Operation) (levels : List Bool) : List Bool :=
  match o with
  | .write _ _ | .writeLanes _ _ _ => levels
  | .step _ _ | .reset => []

namespace Watch

/-- Does it, and looks at the signal. -/
def perform (w : Watch) (o : Operation) : Watch :=
  let dma := w.dma.perform o
  ⟨dma, o.past w.levels ++ [dma.dicr.signal]⟩

/-- The step that comes next reports an edge. -/
def edge (w : Watch) (memory : Memory) (gpu : Gpu) : Bool := (w.dma.step memory gpu).1

/-- The level at the end of the step that comes next. -/
def level (w : Watch) (memory : Memory) (gpu : Gpu) : Bool :=
  (w.dma.perform (.step memory gpu)).dicr.signal

/-- The levels up to the end of the step that comes next. -/
def seen (w : Watch) (memory : Memory) (gpu : Gpu) : List Bool :=
  w.levels ++ [w.level memory gpu]

end Watch

/-- Watches a controller through some operations, from reset on. -/
def watch (operations : List Operation) : Watch :=
  operations.foldl Watch.perform ⟨.reset, [Dma.reset.dicr.signal]⟩

/-! ## What a step sees -/

section Signal

variable (dma : Dma)

theorem signal_record (i : ChannelIndex) (progress : Progress) (c : Channel) :
    (dma.record i progress c).signal = dma.signal := by
  cases progress <;> rfl

theorem signal_runChannel (i : ChannelIndex) (memory : Memory) (gpu : Gpu) :
    (dma.runChannel i memory gpu).1.signal = dma.signal := by
  unfold runChannel
  cases started? (dma.channel i) i with
  | none => rfl
  | some c => exact signal_record dma i _ _

/-- A step keeps the level at its end, and reports an edge when that is high and the one before was
low. -/
theorem signal_step (memory : Memory) (gpu : Gpu) :
    let after := dma.perform (.step memory gpu)
    after.signal = after.dicr.signal ∧
      (dma.step memory gpu).1 = (after.dicr.signal && !dma.signal) := by
  unfold Dma.perform Dma.step
  simp only
  cases Dma.select { dma with accessing := false } with
  | none => exact ⟨rfl, rfl⟩
  | some i =>
    refine ⟨rfl, ?_⟩
    have hkept := signal_runChannel { dma with accessing := false } i memory gpu
    exact congrArg (fun signal => _ && !signal) hkept

/-- Writes of registers do not touch what the last step saw. -/
theorem signal_write (offset value : UInt32) : (dma.write offset value).signal = dma.signal := by
  unfold Dma.write
  cases Register.ofOffset offset <;> rfl

end Signal

namespace Watch

/-- What the last step saw of the signal is the first of the levels. -/
def Faithful (w : Watch) : Prop := w.levels.head? = some w.dma.signal

theorem Faithful.perform {w : Watch} (h : w.Faithful) (o : Operation) :
    (w.perform o).Faithful := by
  -- a write puts a level behind those that there are, of which there is one at least
  have hwrite : ∀ offset value, (w.levels ++ [(w.dma.write offset value).dicr.signal]).head? =
      some (w.dma.write offset value).signal := by
    intro offset value
    rw [signal_write, List.head?_append, h]
    rfl
  cases o with
  | write offset value => exact hwrite offset value
  | writeLanes offset value lanes => exact hwrite offset _
  | step memory gpu => exact congrArg some (signal_step w.dma memory gpu).1.symm
  | reset =>
    show [Dma.reset.dicr.signal].head? = some Dma.reset.signal
    rfl

end Watch

/-- **The first level** is what the last step saw, whatever was done since. -/
theorem head?_levels_watch (operations : List Operation) : (watch operations).Faithful := by
  have hfold : ∀ (operations : List Operation) (w : Watch), w.Faithful →
      (operations.foldl Watch.perform w).Faithful := by
    intro operations
    induction operations with
    | nil => exact fun w h => h
    | cons o operations ih => exact fun w h => ih (w.perform o) (h.perform o)
  exact hfold operations _ rfl

/-! ## Edges -/

/-- A step reports an edge when the first level is low and the last one high. -/
theorem edge_step (operations : List Operation) (memory : Memory) (gpu : Gpu) :
    (watch operations).edge memory gpu = true ↔
      (watch operations).levels.head? = some false ∧ (watch operations).level memory gpu = true := by
  have hfirst : (watch operations).levels.head? = some (watch operations).dma.signal :=
    head?_levels_watch operations
  have hreport : (watch operations).edge memory gpu =
      ((watch operations).level memory gpu && !(watch operations).dma.signal) :=
    (signal_step (watch operations).dma memory gpu).2
  rw [hfirst, hreport, Bool.and_eq_true, Bool.not_eq_true', Option.some.injEq, and_comm]

/-- **Edges of the interrupt signal.**  Whatever is done with a controller: what its next step
reports is an edge since the step before, to a level that it leaves high; and such an edge is
reported just when the signal was low at the end of the step before. -/
theorem edge_watch (operations : List Operation) (memory : Memory) (gpu : Gpu) :
    let w := watch operations
    (w.edge memory gpu = true → Rises (w.seen memory gpu) ∧ w.level memory gpu = true) ∧
    (Rises (w.seen memory gpu) → w.level memory gpu = true →
      (w.edge memory gpu = true ↔ w.levels.head? = some false)) := by
  have hiff := edge_step operations memory gpu
  constructor
  · intro hedge
    obtain ⟨hfirst, hlast⟩ := hiff.1 hedge
    refine ⟨rises_of_ends ?_ ?_, hlast⟩
    · rw [Watch.seen, List.head?_append, hfirst]
      rfl
    · rw [Watch.seen, List.getLast?_concat, hlast]
  · intro _ hlast
    rw [hiff, and_iff_left hlast]

/-- A table of one entry is made, with an interrupt at its end; the interrupt is acknowledged, and
another table asked for. -/
def acknowledged : List Operation :=
  [.write 0x74 0x00C00000, .write 0x70 0x08000000,
    .write 0x60 0x100, .write 0x64 1, .write 0x68 0x01000000, .step .blank {},
    .write 0x74 0x40C00000,
    .write 0x60 0x200, .write 0x64 1, .write 0x68 0x01000000]

/-- The end of the second table raises the signal again, and the step does not report it. -/
theorem edge_lost :
    ¬ ∀ (operations : List Operation) (memory : Memory) (gpu : Gpu),
      Rises ((watch operations).seen memory gpu) → (watch operations).level memory gpu = true →
        (watch operations).edge memory gpu = true := by
  intro h
  have hrises : Rises ((watch acknowledged).seen .blank {}) := by decide
  have hlevel : (watch acknowledged).level .blank {} = true := by decide
  have hedge : (watch acknowledged).edge .blank {} = false := by decide
  rw [h acknowledged .blank {} hrises hlevel] at hedge
  cases hedge

end PlayStation.Dma

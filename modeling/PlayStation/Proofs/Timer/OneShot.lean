/-
  ONE-SHOT counters.

  A mode word without the repeat bit arms a counter for one interrupt.  Two marks remember what came
  of it: that the interrupt was asked for since the mode was written, and since it was last read.

  1. **The marks** are set behind any ticks just if they were set before, or these ask for the
     interrupt; and a one-shot counter that has asked does not ask again (`Asked`).

  2. **What shows of it** outside are two kinds of signs: steps that report the interrupt, and reads
     of the mode with its bit 10 (`Timers.signs`).

  3. **The marks tell the history** (`Tells`): the first is set when a report is among the signs so
     far, and the second when the newest of them is one.  Each operation keeps this up and adds no
     sign that does not belong behind the others (`Tells.perform`), so by induction over the
     operations no list of signs has one that does not (`follows_signs`).
-/
import PlayStation.Proofs.Timer.Period

namespace PlayStation

open Word (bit)

/-! ## The marks of an interrupt -/

namespace Timer

variable (t : Timer)

/-- A counter that asks for its interrupt, or does not, with what it leaves of the two marks. -/
structure Asked (t : Timer) (answer : Timer × Bool) : Prop where
  mode : answer.1.mode = t.mode
  fired : answer.1.fired = (t.fired || answer.2)
  requested : answer.1.requested = (t.requested || answer.2)
  once : t.mode.irqRepeat = false → t.fired = true → answer.2 = false

variable {t} in
/-- One answer behind another. -/
theorem Asked.trans {first second : Timer × Bool} (h : t.Asked first)
    (h' : first.1.Asked second) : t.Asked (second.1, first.2 || second.2) where
  mode := h'.mode.trans h.mode
  fired := by rw [h'.fired, h.fired, Bool.or_assoc]
  requested := by rw [h'.requested, h.requested, Bool.or_assoc]
  once hrepeat hfired := by
    have hfirst : first.2 = false := h.once hrepeat hfired
    have hstill : first.1.fired = true := by rw [h.fired, hfired, Bool.true_or]
    rw [hfirst, h'.once (by rw [h.mode, hrepeat]) hstill, Bool.or_false]

/-- Nothing is asked. -/
theorem asked_nothing : t.Asked (t, false) where
  mode := rfl
  fired := (Bool.or_false _).symm
  requested := (Bool.or_false _).symm
  once _ _ := rfl

theorem asked_fire : t.Asked t.fire := by
  unfold fire
  split
  · exact t.asked_nothing
  · next hopen =>
    refine ⟨rfl, (Bool.or_true _).symm, (Bool.or_true _).symm, fun hrepeat hfired => ?_⟩
    rw [hrepeat, hfired] at hopen
    exact absurd rfl hopen

theorem asked_reachTarget : t.Asked t.reachTarget := by
  -- neither the flag of the target nor the count is a mark of the interrupt
  have hmarked : t.Asked (if t.mode.irqOnTarget then fire { t with reachedTarget := true }
      else ({ t with reachedTarget := true }, false)) := by
    split
    · exact { asked_fire { t with reachedTarget := true } with }
    · exact { asked_nothing { t with reachedTarget := true } with }
  have hreset : ∀ {marked : Timer × Bool}, t.Asked marked →
      t.Asked (if marked.1.mode.resetOnTarget then { marked.1 with counter := 0 } else marked.1,
        marked.2) := by
    intro marked h
    split
    · exact { h with }
    · exact h
  exact hreset hmarked

theorem asked_reachMax : t.Asked t.reachMax := by
  unfold reachMax
  split
  · exact { asked_fire { t with reachedMax := true } with }
  · exact { asked_nothing { t with reachedMax := true } with }

theorem asked_tick : t.Asked t.tick := by
  have htarget : t.Asked t.targetDone := by
    unfold targetDone
    split
    · exact { asked_reachTarget { t with counter := t.counter + 1 } with }
    · exact { asked_nothing { t with counter := t.counter + 1 } with }
  rw [tick_eq_targetDone]
  split
  · exact htarget.trans t.targetDone.1.asked_reachMax
  · exact htarget

/-- **Any ticks** set the marks if they ask, and a one-shot counter asks once. -/
theorem asked_advance (n : Nat) : ∀ t : Timer, t.Asked (t.advance n) := by
  induction n with
  | zero => exact asked_nothing
  | succ n ih => exact fun t => t.asked_tick.trans (ih t.tick.1)

/-- Bit 10 of the mode tells whether the interrupt was asked for since the last read. -/
theorem bit_modeWord {value : UInt32} (hmode : t.mode = .ofBits value.toUInt16) :
    bit t.modeWord.toUInt32 10 = !t.requested := by
  have hsettings : t.mode.bits.toNat.testBit 10 = false := by
    rw [hmode, TimerMode.ofBits, UInt16.toNat_and, Nat.testBit_and]
    exact Bool.and_false _
  have hword : bit t.modeWord.toUInt32 10 = t.modeWord.toNat.testBit 10 := by
    rw [Word.bit_eq_getLsbD]
    rfl
  rw [hword, modeWord, UInt16.toNat_or, UInt16.toNat_or, UInt16.toNat_or, Nat.testBit_or,
    Nat.testBit_or, Nat.testBit_or, hsettings]
  cases t.requested <;> cases t.reachedTarget <;> cases t.reachedMax <;> rfl

end Timer

/-! ## What shows of an interrupt -/

namespace Timers

/-- What is done with the counters. -/
inductive Operation where
  /-- Cycles and ends of scanlines pass. -/
  | step (cycles scanlines : Nat)
  /-- A register is read. -/
  | read (offset : UInt32)
  /-- A register is written. -/
  | write (offset value : UInt32)

/-- What becomes of the counters. -/
def perform (ts : Timers) : Operation → Timers
  | .step cycles scanlines => (ts.step cycles scanlines).2
  | .read offset => (ts.read offset).2
  | .write offset value => ts.write offset value

/-- The mode of a counter is written. -/
def Operation.Arms (i : TimerIndex) : Operation → Prop
  | .write offset _ => locate offset = some (i, .mode)
  | _ => False

instance (i : TimerIndex) : (o : Operation) → Decidable (o.Arms i)
  | .step _ _ => .isFalse id
  | .read _ => .isFalse id
  | .write offset _ => inferInstanceAs (Decidable (locate offset = some (i, .mode)))

/-- A sign of the interrupt of a counter. -/
inductive Sign where
  /-- A step reports the interrupt. -/
  | report
  /-- The mode is read, with this bit 10. -/
  | modeRead (quiet : Bool)
deriving DecidableEq, Repr

/-- What an operation shows of the interrupt of a counter. -/
def sign? (ts : Timers) (i : TimerIndex) : Operation → Option Sign
  | .step cycles scanlines =>
    if (ts.step cycles scanlines).1.has i.line then some .report else none
  | .read offset =>
    if locate offset = some (i, .mode) then some (.modeRead (bit (ts.read offset).1 10)) else none
  | .write _ _ => none

/-- All that shows of it while operations are performed in turn. -/
def signs (ts : Timers) (i : TimerIndex) : List Operation → List Sign
  | [] => []
  | o :: operations => (ts.sign? i o).toList ++ (ts.perform o).signs i operations

/-! ## The history of a one-shot counter -/

/-- A sign that belongs behind others: a report when there was none, and a read of the mode with bit
10 clear just when a report came right before it. -/
def Follows (before : List Sign) : Sign → Prop
  | .report => .report ∉ before
  | .modeRead quiet => quiet = false ↔ before.getLast? = some .report

/-- The counter was armed for one interrupt, and its marks tell of the signs since. -/
structure Tells (value : UInt32) (t : Timer) (before : List Sign) : Prop where
  mode : t.mode = .ofBits value.toUInt16
  fired : t.fired = true ↔ .report ∈ before
  requested : t.requested = true ↔ before.getLast? = some .report

section Operations

variable (ts : Timers) {i : TimerIndex} {offset : UInt32}

theorem timer_setTimer_of_ne {j : TimerIndex} (h : j ≠ i) (t : Timer) :
    (ts.setTimer j t).timer i = ts.timer i := by
  cases i <;> cases j <;> first | rfl | exact absurd rfl h

/-- Reads of other registers leave a counter alone. -/
theorem timer_read (h : locate offset ≠ some (i, .mode)) :
    (ts.read offset).2.timer i = ts.timer i := by
  unfold read
  split
  case h_4 j hregister =>
    have hne : j ≠ i := by
      rintro rfl
      exact h hregister
    exact ts.timer_setTimer_of_ne hne _
  all_goals rfl

/-- Writes to other registers can change its count and its target. -/
theorem timer_write (h : locate offset ≠ some (i, .mode)) (value : UInt32) :
    ∃ counter target, (ts.write offset value).timer i = { ts.timer i with counter, target } := by
  have hset : ∀ (j : TimerIndex) (counter target : UInt16),
      ∃ counter' target', (ts.setTimer j { ts.timer j with counter, target }).timer i =
        { ts.timer i with counter := counter', target := target' } := by
    intro j counter target
    by_cases hj : j = i
    · subst hj
      exact ⟨counter, target, timer_setTimer ts j _⟩
    · exact ⟨_, _, ts.timer_setTimer_of_ne hj _⟩
  unfold write
  simp only
  split
  · exact ⟨_, _, rfl⟩
  · exact hset _ _ _
  · exact hset _ _ _
  · next j hregister =>
    have hne : j ≠ i := by
      rintro rfl
      exact h hregister
    exact ⟨_, _, ts.timer_setTimer_of_ne hne _⟩

end Operations

section History

variable {ts : Timers} {i : TimerIndex} {value : UInt32} {before : List Sign}

/-- The repeat bit of the mode is that of the word. -/
theorem irqRepeat_ofBits (value : UInt32) :
    (TimerMode.ofBits value.toUInt16).irqRepeat = bit value 6 :=
  (flag_ofBits value (n := 6) rfl (by decide)).trans (Word.bit_eq_getLsbD value 6).symm

/-- Without a sign, the marks stay what they were. -/
theorem Tells.of_marks {t u : Timer} (h : Tells value t before) (hmode : u.mode = t.mode)
    (hfired : u.fired = t.fired) (hrequested : u.requested = t.requested) :
    Tells value u (before ++ []) := by
  rw [List.append_nil]
  exact ⟨hmode.trans h.mode, by rw [hfired, h.fired], by rw [hrequested, h.requested]⟩

/-- **One step**: it reports the interrupt only if there was no report before. -/
theorem Tells.step (h : Tells value (ts.timer i) before) (honce : bit value 6 = false)
    (cycles scanlines : Nat) :
    (∀ s ∈ ts.sign? i (.step cycles scanlines), Follows before s) ∧
      Tells value ((ts.step cycles scanlines).2.timer i)
        (before ++ (ts.sign? i (.step cycles scanlines)).toList) := by
  have hasked := (ts.timer i).asked_advance (ts.ticks cycles scanlines i)
  have hrepeat : (ts.timer i).mode.irqRepeat = false := by
    rw [h.mode, irqRepeat_ofBits, honce]
  rw [sign?, requests_step, has_requests, timer_step]
  cases hasks : ((ts.timer i).advance (ts.ticks cycles scanlines i)).2 with
  | false =>
    refine ⟨nofun, h.of_marks hasked.mode ?_ ?_⟩
    · rw [hasked.fired, hasks, Bool.or_false]
    · rw [hasked.requested, hasks, Bool.or_false]
  | true =>
    have hopen : .report ∉ before := by
      intro hmem
      rw [hasked.once hrepeat (h.fired.2 hmem)] at hasks
      cases hasks
    refine ⟨by rintro _ ⟨⟩; exact hopen, hasked.mode.trans h.mode, ?_, ?_⟩
    · rw [hasked.fired, hasks, Bool.or_true]
      exact iff_of_true rfl (List.mem_append_right before (List.mem_singleton_self _))
    · rw [hasked.requested, hasks, Bool.or_true]
      exact iff_of_true rfl List.getLast?_concat

/-- **One read**: bit 10 of the mode is clear just if the newest sign is a report, and then it is
not any more. -/
theorem Tells.read (h : Tells value (ts.timer i) before) (offset : UInt32) :
    (∀ s ∈ ts.sign? i (.read offset), Follows before s) ∧
      Tells value ((ts.read offset).2.timer i) (before ++ (ts.sign? i (.read offset)).toList) := by
  by_cases hregister : locate offset = some (i, .mode)
  · have hread : ts.read offset =
        ((ts.timer i).modeWord.toUInt32, ts.setTimer i (ts.timer i).clearFlags) := by
      rw [Timers.read, hregister]
    rw [sign?, if_pos hregister, hread, timer_setTimer, Timer.bit_modeWord _ h.mode]
    refine ⟨?_, h.mode, ?_, ?_⟩
    · rintro _ ⟨⟩
      show (!(ts.timer i).requested) = false ↔ _
      rw [Bool.not_eq_false', h.requested]
    · show (ts.timer i).fired = true ↔ _
      rw [h.fired]
      simp
    · exact iff_of_false nofun (by simp)
  · rw [sign?, if_neg hregister, ts.timer_read hregister]
    exact ⟨nofun, h.of_marks rfl rfl rfl⟩

/-- **Every operation** but a write of its mode shows of a one-shot counter what may follow, and the
marks go on to tell the history. -/
theorem Tells.perform (h : Tells value (ts.timer i) before) (honce : bit value 6 = false)
    {o : Operation} (hother : ¬o.Arms i) :
    (∀ s ∈ ts.sign? i o, Follows before s) ∧
      Tells value ((ts.perform o).timer i) (before ++ (ts.sign? i o).toList) := by
  cases o with
  | step cycles scanlines => exact h.step honce cycles scanlines
  | read offset => exact h.read offset
  | write offset written =>
    obtain ⟨counter, target, hwrite⟩ := ts.timer_write hother written
    refine ⟨nofun, ?_⟩
    show Tells value ((ts.write offset written).timer i) (before ++ [])
    rw [hwrite]
    exact h.of_marks rfl rfl rfl

/-- **Any operations**: each sign that they show is one that may follow those before it. -/
theorem follows_signs (honce : bit value 6 = false) {operations : List Operation}
    (hothers : ∀ o ∈ operations, ¬o.Arms i) : ∀ {ts : Timers} {before : List Sign},
    Tells value (ts.timer i) before → ∀ {front s behind},
      ts.signs i operations = front ++ s :: behind → Follows (before ++ front) s := by
  induction operations with
  | nil =>
    intro ts before _ front s behind hsigns
    simp [signs] at hsigns
  | cons o operations ih =>
    intro ts before h front s behind hsigns
    obtain ⟨ho, hothers⟩ := List.forall_mem_cons.1 hothers
    obtain ⟨hfollows, hnext⟩ := h.perform honce ho
    rw [signs] at hsigns
    cases hsign : ts.sign? i o with
    | none =>
      rw [hsign] at hsigns hnext
      rw [Option.toList_none, List.append_nil] at hnext
      exact ih hothers hnext hsigns
    | some first =>
      rw [hsign] at hsigns hnext
      cases front with
      | nil =>
        -- the sign is that of the first operation
        obtain ⟨rfl, -⟩ := List.cons.inj hsigns
        rw [List.append_nil]
        exact hfollows _ hsign
      | cons first' front =>
        obtain ⟨rfl, hrest⟩ := List.cons.inj hsigns
        have hbehind := ih hothers hnext hrest
        rwa [Option.toList_some, List.append_assoc] at hbehind

/-- A report that has none before it, wherever it stands, is the only one. -/
theorem count_report_le {signs : List Sign}
    (h : ∀ front behind, signs = front ++ .report :: behind → .report ∉ front) :
    signs.count .report ≤ 1 := by
  by_cases hmem : .report ∈ signs
  · obtain ⟨front, behind, rfl, hfront⟩ := List.eq_append_cons_of_mem hmem
    have hbehind : .report ∉ behind := by
      intro hagain
      obtain ⟨between, rest, rfl⟩ := List.append_of_mem hagain
      refine h (front ++ .report :: between) rest (by simp) ?_
      exact List.mem_append_right front List.mem_cons_self
    rw [List.count_append, List.count_cons_self, List.count_eq_zero.2 hfront,
      List.count_eq_zero.2 hbehind]
  · rw [List.count_eq_zero.2 hmem]
    exact Nat.zero_le 1

end History

/-- **One interrupt for each time that a counter is armed.**  Let a mode word without the repeat bit
be written to a counter, and anything be done then but to write its mode.  At most one step reports
the interrupt.  Bit 10 of the mode is read as zero just where a report came since the last time that
the mode was read: in the first read behind the report, and in no other. -/
theorem signs_oneShot (ts : Timers) {i : TimerIndex} {offset value : UInt32}
    (hregister : locate offset = some (i, .mode)) (honce : bit value 6 = false)
    {operations : List Operation} (hothers : ∀ o ∈ operations, ¬o.Arms i) :
    let signs := (ts.write offset value).signs i operations
    signs.count .report ≤ 1 ∧
    ∀ front quiet behind, signs = front ++ .modeRead quiet :: behind →
      (quiet = false ↔ front.getLast? = some .report) := by
  intro signs
  have harmed : Tells value ((ts.write offset value).timer i) [] := by
    rw [write_mode hregister, timer_setTimer]
    exact ⟨rfl, iff_of_false nofun nofun, iff_of_false nofun nofun⟩
  have hfollows : ∀ {front s behind}, signs = front ++ s :: behind → Follows front s :=
    follows_signs honce hothers harmed
  exact ⟨count_report_le fun _ _ => hfollows, fun _ _ _ => hfollows⟩

/-- Counter 1 is armed for its target, 3, where it starts over.  It comes there twice, the second
time behind writes to its count and its target and to the mode of counter 0. -/
theorem signs_oneShot_target :
    let armed := (Timers.reset.write 0x18 3).write 0x14 0x0018
    let operations : List Operation :=
      [.read 0x14, .step 2 0, .step 4 0, .write 0x10 2, .write 0x18 3, .step 1 0,
        .write 0x04 0x0058, .read 0x14, .read 0x14]
    armed.signs .one operations = [.modeRead true, .report, .modeRead false, .modeRead true] ∧
      (armed.signs .one operations).count .report ≤ 1 := by
  intro armed operations
  have hregister : locate 0x14 = some (.one, .mode) := by decide
  have hothers : ∀ o ∈ operations, ¬o.Arms .one := by decide
  exact ⟨by decide, (signs_oneShot (Timers.reset.write 0x18 3) hregister (by decide) hothers).1⟩

end Timers

end PlayStation

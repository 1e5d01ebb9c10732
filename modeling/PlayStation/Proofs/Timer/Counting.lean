/-
  COUNTING: what ticks do to a counter.

  A tick brings the counter one up and then looks at two events in turn.  The first is the target,
  and it may put the counter back to zero.  So the second, 0xFFFF, is looked for in a count that is
  gone already when 0xFFFF is the target as well.

  1. **One tick** (`tick_eq`): where it leaves the counter (`landing`), and which flags it sets.  In
     repeat mode it asks for an interrupt when an event is met that is to ask for one
     (`tick_asks`).

  2. **A number of ticks** can be cut anywhere (`advance_add`).  A flag that one tick never clears is
     set behind all of them just if it was set before, or one of them has set it (`flag_advance`).

  3. So every event is told of but one: where 0xFFFF is the target too, and the counter starts over
     there, it sets no flag of its own and asks for nothing (`advance_events`, `fullCount_missed`).
-/
import Mathlib.Data.Nat.Basic
import PlayStation.Timer.Basic

namespace PlayStation.Timer

variable (t : Timer)

/-! ## One tick -/

/-- The next tick brings the counter to its target. -/
def meetsTarget : Bool := t.counter + 1 == t.target

/-- Where the next tick leaves the counter. -/
def landing : UInt16 := if t.meetsTarget && t.mode.resetOnTarget then 0 else t.counter + 1

/-- The next tick leaves the counter at 0xFFFF. -/
def meetsMax : Bool := t.landing == 0xFFFF

/-- To ask for an interrupt is to touch nothing but the two marks of that. -/
theorem fire_eq : ∃ fired requested, t.fire.1 = { t with fired, requested } := by
  unfold fire
  split
  · exact ⟨t.fired, t.requested, rfl⟩
  · exact ⟨true, true, rfl⟩

theorem fire_asks (hrepeat : t.mode.irqRepeat = true) : t.fire.2 = true := by
  rw [fire, hrepeat, Bool.not_true, Bool.and_false]
  rfl

theorem reachTarget_eq : ∃ fired requested, t.reachTarget.1 =
    { t with
      counter := if t.mode.resetOnTarget then 0 else t.counter
      reachedTarget := true
      fired
      requested } := by
  have hmarked : ∃ fired requested,
      (if t.mode.irqOnTarget then fire { t with reachedTarget := true }
        else ({ t with reachedTarget := true }, false)).1 =
      { t with reachedTarget := true, fired, requested } := by
    split
    · exact fire_eq _
    · exact ⟨t.fired, t.requested, rfl⟩
  obtain ⟨fired, requested, hmarked⟩ := hmarked
  refine ⟨fired, requested, ?_⟩
  simp only [reachTarget, hmarked]
  split <;> rfl

theorem reachTarget_asks (hrepeat : t.mode.irqRepeat = true) :
    t.reachTarget.2 = t.mode.irqOnTarget := by
  show (if t.mode.irqOnTarget then fire { t with reachedTarget := true }
    else ({ t with reachedTarget := true }, false)).2 = _
  split
  · next hasks => rw [hasks, fire_asks { t with reachedTarget := true } hrepeat]
  · next hasks => exact (Bool.eq_false_iff.2 hasks).symm

theorem reachMax_eq :
    ∃ fired requested, t.reachMax.1 = { t with reachedMax := true, fired, requested } := by
  unfold reachMax
  split
  · exact fire_eq _
  · exact ⟨t.fired, t.requested, rfl⟩

theorem reachMax_asks (hrepeat : t.mode.irqRepeat = true) : t.reachMax.2 = t.mode.irqOnMax := by
  unfold reachMax
  split
  · next hasks => rw [hasks, fire_asks { t with reachedMax := true } hrepeat]
  · next hasks => exact (Bool.eq_false_iff.2 hasks).symm

/-- The counter one up, and the first event seen to. -/
def targetDone : Timer × Bool :=
  if t.meetsTarget then reachTarget { t with counter := t.counter + 1 }
  else ({ t with counter := t.counter + 1 }, false)

theorem targetDone_eq : ∃ fired requested, t.targetDone.1 =
    { t with
      counter := t.landing
      reachedTarget := t.reachedTarget || t.meetsTarget
      fired
      requested } := by
  unfold targetDone landing
  cases t.meetsTarget with
  | false =>
    refine ⟨t.fired, t.requested, ?_⟩
    simp
  | true =>
    obtain ⟨fired, requested, hreached⟩ := reachTarget_eq { t with counter := t.counter + 1 }
    refine ⟨fired, requested, ?_⟩
    simp [hreached]

/-- The second event is looked for where the first has left the counter. -/
theorem tick_eq_targetDone : t.tick =
    if t.meetsMax then (t.targetDone.1.reachMax.1, t.targetDone.2 || t.targetDone.1.reachMax.2)
    else (t.targetDone.1, t.targetDone.2) := by
  obtain ⟨fired, requested, hdone⟩ := t.targetDone_eq
  have hcounter : t.targetDone.1.counter = t.landing := by rw [hdone]
  have htick : t.tick =
      ((if t.targetDone.1.counter == 0xFFFF then t.targetDone.1.reachMax
          else (t.targetDone.1, false)).1,
        t.targetDone.2 || (if t.targetDone.1.counter == 0xFFFF then t.targetDone.1.reachMax
          else (t.targetDone.1, false)).2) := rfl
  rw [htick, hcounter]
  show (_, _) = if t.landing == 0xFFFF then _ else _
  split
  · rfl
  · rw [Bool.or_false]

/-- **What a tick does**, but for the two marks of an interrupt. -/
theorem tick_eq : ∃ fired requested, t.tick.1 =
    { t with
      counter := t.landing
      reachedTarget := t.reachedTarget || t.meetsTarget
      reachedMax := t.reachedMax || t.meetsMax
      fired
      requested } := by
  obtain ⟨fired, requested, hdone⟩ := t.targetDone_eq
  rw [tick_eq_targetDone]
  cases t.meetsMax with
  | false =>
    refine ⟨fired, requested, ?_⟩
    simp [hdone]
  | true =>
    obtain ⟨fired', requested', hmax⟩ := t.targetDone.1.reachMax_eq
    refine ⟨fired', requested', ?_⟩
    rw [if_pos rfl, hmax, hdone, Bool.or_true]

theorem mode_tick : t.tick.1.mode = t.mode := by
  obtain ⟨_, _, h⟩ := t.tick_eq
  rw [h]

theorem target_tick : t.tick.1.target = t.target := by
  obtain ⟨_, _, h⟩ := t.tick_eq
  rw [h]

theorem reachedTarget_tick : t.tick.1.reachedTarget = (t.reachedTarget || t.meetsTarget) := by
  obtain ⟨_, _, h⟩ := t.tick_eq
  rw [h]

theorem reachedMax_tick : t.tick.1.reachedMax = (t.reachedMax || t.meetsMax) := by
  obtain ⟨_, _, h⟩ := t.tick_eq
  rw [h]

/-- **In repeat mode** both events ask whenever they are met, if they are to. -/
theorem tick_asks (hrepeat : t.mode.irqRepeat = true) : t.tick.2 =
    (t.meetsTarget && t.mode.irqOnTarget || t.meetsMax && t.mode.irqOnMax) := by
  have htarget : t.targetDone.2 = (t.meetsTarget && t.mode.irqOnTarget) := by
    unfold targetDone
    cases t.meetsTarget with
    | false => rfl
    | true => exact reachTarget_asks { t with counter := t.counter + 1 } hrepeat
  have hmode : t.targetDone.1.mode = t.mode := by
    obtain ⟨_, _, hdone⟩ := t.targetDone_eq
    rw [hdone]
  have hmax : t.targetDone.1.reachMax.2 = t.mode.irqOnMax := by
    rw [reachMax_asks _ (by rw [hmode]; exact hrepeat), hmode]
  rw [tick_eq_targetDone]
  cases t.meetsMax with
  | false => rw [if_neg Bool.false_ne_true, htarget, Bool.false_and, Bool.or_false]
  | true => rw [if_pos rfl, htarget, hmax, Bool.true_and]

/-- 0xFFFF is met when the counter comes there and stays there. -/
theorem meetsMax_iff : t.meetsMax = true ↔
    t.counter + 1 = 0xFFFF ∧ ¬(t.target = 0xFFFF ∧ t.mode.resetOnTarget = true) := by
  rw [meetsMax, beq_iff_eq, landing, meetsTarget]
  by_cases hreset : t.counter + 1 = t.target ∧ t.mode.resetOnTarget = true
  · obtain ⟨htarget, hreset⟩ := hreset
    have hzero : (if (t.counter + 1 == t.target) && t.mode.resetOnTarget then 0
        else t.counter + 1) = 0 := by
      rw [htarget, hreset, beq_self_eq_true]
      rfl
    rw [hzero, htarget]
    exact iff_of_false (by decide) fun h => h.2 ⟨h.1, hreset⟩
  · rw [if_neg (by rwa [Bool.and_eq_true, beq_iff_eq])]
    constructor
    · exact fun hmax => ⟨hmax, fun h => hreset ⟨hmax.trans h.1.symm, h.2⟩⟩
    · exact And.left

/-! ## A number of ticks -/

theorem advance_succ (n : Nat) :
    t.advance (n + 1) = ((t.tick.1.advance n).1, t.tick.2 || (t.tick.1.advance n).2) := rfl

/-- **Ticks can be cut anywhere.** -/
theorem advance_add (m n : Nat) : ∀ t : Timer, t.advance (m + n) =
    (((t.advance m).1.advance n).1, (t.advance m).2 || ((t.advance m).1.advance n).2) := by
  induction m with
  | zero =>
    intro t
    rw [Nat.zero_add]
    rfl
  | succ m ih =>
    intro t
    rw [Nat.succ_add, advance_succ, ih, advance_succ, Bool.or_assoc]

theorem mode_advance (n : Nat) : ∀ t : Timer, (t.advance n).1.mode = t.mode := by
  induction n with
  | zero => exact fun _ => rfl
  | succ n ih => exact fun t => (ih t.tick.1).trans t.mode_tick

theorem target_advance (n : Nat) : ∀ t : Timer, (t.advance n).1.target = t.target := by
  induction n with
  | zero => exact fun _ => rfl
  | succ n ih => exact fun t => (ih t.tick.1).trans t.target_tick

/-- **A flag that a tick can only set** is set in the end if it was, or if some tick has set it. -/
theorem flag_advance {flag event : Timer → Bool}
    (htick : ∀ t : Timer, flag t.tick.1 = (flag t || event t)) (n : Nat) :
    ∀ t : Timer, flag (t.advance n).1 = true ↔
      flag t = true ∨ ∃ k < n, event (t.advance k).1 = true := by
  induction n with
  | zero =>
    intro t
    exact ⟨.inl, fun h => h.elim id fun ⟨k, hk, _⟩ => absurd hk (Nat.not_lt_zero k)⟩
  | succ n ih =>
    intro t
    have hrest : flag (t.advance (n + 1)).1 = true ↔
        flag t.tick.1 = true ∨ ∃ k < n, event (t.advance (k + 1)).1 = true := ih t.tick.1
    rw [hrest, htick, Bool.or_eq_true, or_assoc, Nat.exists_lt_succ_left]
    rfl

/-- Ticks ask for an interrupt if one of them does. -/
theorem advance_asks (n : Nat) : ∀ t : Timer,
    (t.advance n).2 = true ↔ ∃ k < n, (t.advance k).1.tick.2 = true := by
  induction n with
  | zero => exact fun _ => iff_of_false nofun fun ⟨k, hk, _⟩ => absurd hk (Nat.not_lt_zero k)
  | succ n ih =>
    intro t
    have hrest : (t.tick.1.advance n).2 = true ↔
        ∃ k < n, (t.advance (k + 1)).1.tick.2 = true := ih t.tick.1
    rw [advance_succ, Bool.or_eq_true, hrest, Nat.exists_lt_succ_left]
    rfl

/-- **Which events are told of**, whatever the counter and its mode.  The flag of the target is set
behind `n` ticks just if it was set before, or one of them brought the counter to its target.  The
flag of 0xFFFF is set just if it was set before, or one of them brought the counter there, and it
was not put back to zero for being at its target.  In repeat mode a tick asks for an interrupt just
if it brings the counter to the target, or likewise to 0xFFFF, and the mode says that this is to
ask for one. -/
theorem advance_events (n : Nat) :
    ((t.advance n).1.reachedTarget = true ↔
      t.reachedTarget = true ∨ ∃ k < n, (t.advance k).1.counter + 1 = t.target) ∧
    ((t.advance n).1.reachedMax = true ↔
      t.reachedMax = true ∨ ∃ k < n, (t.advance k).1.counter + 1 = 0xFFFF ∧
        ¬(t.target = 0xFFFF ∧ t.mode.resetOnTarget = true)) ∧
    ((t.advance n).2 = true ↔ ∃ k < n, (t.advance k).1.tick.2 = true) ∧
    (t.mode.irqRepeat = true → ∀ k, (t.advance k).1.tick.2 = true ↔
      (t.advance k).1.counter + 1 = t.target ∧ t.mode.irqOnTarget = true ∨
      (t.advance k).1.counter + 1 = 0xFFFF ∧
        ¬(t.target = 0xFFFF ∧ t.mode.resetOnTarget = true) ∧ t.mode.irqOnMax = true) := by
  have htarget : ∀ k, (t.advance k).1.meetsTarget = true ↔
      (t.advance k).1.counter + 1 = t.target := by
    intro k
    rw [meetsTarget, beq_iff_eq, target_advance]
  have hmax : ∀ k, (t.advance k).1.meetsMax = true ↔ (t.advance k).1.counter + 1 = 0xFFFF ∧
      ¬(t.target = 0xFFFF ∧ t.mode.resetOnTarget = true) := by
    intro k
    rw [meetsMax_iff, target_advance, mode_advance]
  refine ⟨?_, ?_, advance_asks n t, ?_⟩
  · simp only [flag_advance reachedTarget_tick n t, htarget]
  · simp only [flag_advance reachedMax_tick n t, hmax]
  · intro hrepeat k
    have hasks := (t.advance k).1.tick_asks (by rw [mode_advance]; exact hrepeat)
    rw [hasks, mode_advance, Bool.or_eq_true, Bool.and_eq_true, Bool.and_eq_true, htarget, hmax,
      and_assoc]

/-- A counter that starts over at 0xFFFF, and is to ask for an interrupt there, comes there: no flag
tells of it, and nothing is asked for. -/
theorem fullCount_missed :
    let t : Timer := { counter := 0xFFFE, target := 0xFFFF, mode := .ofBits 0x68 }
    t.counter + 1 = 0xFFFF ∧ t.mode.irqOnMax = true ∧ t.mode.irqRepeat = true ∧
      (t.advance 1).1.reachedMax = false ∧ (t.advance 1).2 = false := by
  decide

end PlayStation.Timer

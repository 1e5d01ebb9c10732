/-
  The three ROOT COUNTERS and what clocks them.

  Counter 0 counts system cycles.  Counter 1 counts system cycles or ends of scanlines.  Counter 2
  counts system cycles or every eighth of them; the cycles short of eight are carried over, and
  forgotten as soon as the counter runs at full speed again.
-/
import PlayStation.Interrupt
import PlayStation.Timer.Basic

namespace PlayStation

/-- Names one of the three counters. -/
inductive TimerIndex where
  | zero
  | one
  | two
deriving DecidableEq, Repr, Inhabited

/-- The three counters and the remainder of the divide-by-eight clock. -/
structure Timers where
  timer0 : Timer := {}
  timer1 : Timer := {}
  timer2 : Timer := {}
  prescaler : Nat := 0
deriving DecidableEq, Repr

namespace Timers

/-- All counters stopped at zero. -/
def reset : Timers := {}

instance : Inhabited Timers := ⟨reset⟩

/-- The counter of an index. -/
@[inline] def timer (ts : Timers) : TimerIndex → Timer
  | .zero => ts.timer0
  | .one => ts.timer1
  | .two => ts.timer2

/-- Replaces the counter of an index. -/
@[inline] def setTimer (ts : Timers) (i : TimerIndex) (t : Timer) : Timers :=
  match i with
  | .zero => { ts with timer0 := t }
  | .one => { ts with timer1 := t }
  | .two => { ts with timer2 := t }

/-- Counter 1 counts scanlines. -/
def countsScanlines (ts : Timers) : Bool := ts.timer1.mode.clockSource &&& 1 != 0

/-- Counter 2 counts every eighth cycle. -/
def countsEighths (ts : Timers) : Bool := ts.timer2.mode.clockSource &&& 2 != 0

/-- The ticks that counter 2 gets out of `cycles` cycles, and the remainder kept for later. -/
def divide (ts : Timers) (cycles : Nat) : Nat × Nat :=
  if ts.countsEighths then ((ts.prescaler + cycles) / 8, (ts.prescaler + cycles) % 8)
  else (cycles, 0)

/-- Advances by system cycles and scanline ends; the sources of the counters that fired. -/
def step (ts : Timers) (cycles scanlines : Nat) : IrqSet × Timers :=
  let ticks1 := if ts.countsScanlines then scanlines else cycles
  let (ticks2, prescaler) := ts.divide cycles
  let (t0, irq0) := ts.timer0.advance cycles
  let (t1, irq1) := ts.timer1.advance ticks1
  let (t2, irq2) := ts.timer2.advance ticks2
  ((IrqSet.timer0.when irq0).union ((IrqSet.timer1.when irq1).union (IrqSet.timer2.when irq2)),
    ⟨t0, t1, t2, prescaler⟩)

/-! ## Registers -/

/-- The three registers of a counter. -/
inductive Register where
  | counter
  | mode
  | target
deriving DecidableEq, Repr

/-- The register at an offset into the counters' window: sixteen bytes for each counter. -/
def locate (offset : UInt32) : Option (TimerIndex × Register) :=
  let timer : Option TimerIndex :=
    if (offset >>> 4) &&& 3 == 0 then some .zero
    else if (offset >>> 4) &&& 3 == 1 then some .one
    else if (offset >>> 4) &&& 3 == 2 then some .two
    else none
  let register : Option Register :=
    if offset &&& 0xC == 0 then some .counter
    else if offset &&& 0xC == 4 then some .mode
    else if offset &&& 0xC == 8 then some .target
    else none
  timer.bind fun i => register.map fun r => (i, r)

/-- Reads a register; reading a mode clears its flags.  Unused offsets read as zero. -/
def read (ts : Timers) (offset : UInt32) : UInt32 × Timers :=
  match locate offset with
  | none => (0, ts)
  | some (i, .counter) => ((ts.timer i).counter.toUInt32, ts)
  | some (i, .target) => ((ts.timer i).target.toUInt32, ts)
  | some (i, .mode) =>
    ((ts.timer i).modeWord.toUInt32, ts.setTimer i (ts.timer i).clearFlags)

/-- Writes the low half of a word to a register.  Unused offsets ignore it. -/
def write (ts : Timers) (offset value : UInt32) : Timers :=
  let value := value.toUInt16
  match locate offset with
  | none => ts
  | some (i, .counter) => ts.setTimer i { ts.timer i with counter := value }
  | some (i, .target) => ts.setTimer i { ts.timer i with target := value }
  | some (i, .mode) => ts.setTimer i ((ts.timer i).writeMode value)

end Timers

end PlayStation

/-
  One ROOT COUNTER.

  A counter counts 16-bit ticks.  Each tick adds one and then looks at two events in turn: the
  counter stands at the target (and may be put back to zero for it), and the counter stands at
  0xFFFF.  An event leaves its flag behind and may ask for an interrupt.  In one-shot mode the
  first request after a write to the mode register is also the last.

  The mode register as it is read:

    0-9   as written (ten writable bits)
    10    no interrupt was requested since the last read
    11    the target was reached      (reading clears it)
    12    0xFFFF was reached          (reading clears it)
-/

namespace PlayStation

/-- The ten writable bits of a counter's mode. -/
structure TimerMode where
  bits : UInt16
deriving DecidableEq, Repr, Inhabited

namespace TimerMode

/-- Keeps the writable bits. -/
def ofBits (value : UInt16) : TimerMode := ⟨value &&& 0x03FF⟩

/-- Synchronisation with the display is wanted; it is latched and has no effect. -/
def syncEnable (m : TimerMode) : Bool := m.bits &&& 0x0001 != 0
def syncMode (m : TimerMode) : UInt16 := (m.bits >>> 1) &&& 3
def resetOnTarget (m : TimerMode) : Bool := m.bits &&& 0x0008 != 0
def irqOnTarget (m : TimerMode) : Bool := m.bits &&& 0x0010 != 0
def irqOnMax (m : TimerMode) : Bool := m.bits &&& 0x0020 != 0
def irqRepeat (m : TimerMode) : Bool := m.bits &&& 0x0040 != 0
def irqToggle (m : TimerMode) : Bool := m.bits &&& 0x0080 != 0
def clockSource (m : TimerMode) : UInt16 := (m.bits >>> 8) &&& 3

end TimerMode

/-- A root counter. -/
structure Timer where
  counter : UInt16 := 0
  target : UInt16 := 0
  mode : TimerMode := ⟨0⟩
  /-- The target was reached since the mode was last read. -/
  reachedTarget : Bool := false
  /-- The count 0xFFFF was reached since the mode was last read. -/
  reachedMax : Bool := false
  /-- An interrupt was requested since the mode was last read or written. -/
  requested : Bool := false
  /-- An interrupt was requested since the mode was last written. -/
  fired : Bool := false
deriving DecidableEq, Repr, Inhabited

namespace Timer

/-! ## Registers -/

/-- The mode register as software sees it. -/
def modeWord (t : Timer) : UInt16 :=
  t.mode.bits ||| (if t.requested then 0 else 0x0400)
    ||| (if t.reachedTarget then 0x0800 else 0) ||| (if t.reachedMax then 0x1000 else 0)

/-- What reading the mode register leaves behind: the three flags are gone. -/
def clearFlags (t : Timer) : Timer :=
  { t with reachedTarget := false, reachedMax := false, requested := false }

/-- Writing the mode restarts the count and arms a one-shot interrupt again. -/
def writeMode (t : Timer) (value : UInt16) : Timer :=
  { t with mode := .ofBits value, counter := 0, requested := false, fired := false }

/-! ## Counting -/

/-- Asks for an interrupt, unless a one-shot counter has already had its one. -/
def fire (t : Timer) : Timer × Bool :=
  if t.fired && !t.mode.irqRepeat then (t, false)
  else ({ t with fired := true, requested := true }, true)

/-- The counter stands at its target. -/
def reachTarget (t : Timer) : Timer × Bool :=
  let (t, irq) :=
    if t.mode.irqOnTarget then { t with reachedTarget := true }.fire
    else ({ t with reachedTarget := true }, false)
  (if t.mode.resetOnTarget then { t with counter := 0 } else t, irq)

/-- The counter stands at 0xFFFF. -/
def reachMax (t : Timer) : Timer × Bool :=
  if t.mode.irqOnMax then { t with reachedMax := true }.fire
  else ({ t with reachedMax := true }, false)

/-- One tick, and whether it asks for an interrupt. -/
def tick (t : Timer) : Timer × Bool :=
  let t := { t with counter := t.counter + 1 }
  let (t, onTarget) := if t.counter == t.target then t.reachTarget else (t, false)
  let (t, onMax) := if t.counter == 0xFFFF then t.reachMax else (t, false)
  (t, onTarget || onMax)

/-- A number of ticks, and whether any of them asks for an interrupt. -/
def advance (t : Timer) : Nat → Timer × Bool
  | 0 => (t, false)
  | n + 1 =>
    let (t, first) := t.tick
    let (t, later) := t.advance n
    (t, first || later)

end Timer

end PlayStation

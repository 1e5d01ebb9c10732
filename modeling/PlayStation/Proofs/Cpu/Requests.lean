/-
  What a step ASKS of the bus.

  A step makes two accesses at most: it fetches the word at the program counter, and the instruction
  that it fetches may load or store.  `Cpu.requests` lists them, and the bus behind the step is the
  one in front of it with these accesses made (`bus_step`).  So whatever the bus is, what a step
  does to it is settled access by access.
-/
import PlayStation.Proofs.Cpu.Course

namespace PlayStation

/-- An access that the processor makes. -/
inductive Request where
  | load (width : AccessWidth) (address : UInt32)
  | store (width : AccessWidth) (address value : UInt32)
deriving DecidableEq, Repr

namespace Request

/-- Where the access goes. -/
def address : Request → UInt32
  | .load _ address => address
  | .store _ address _ => address

/-- How many bytes it moves. -/
def width : Request → AccessWidth
  | .load width _ => width
  | .store width _ _ => width

/-- The answer to a store: nothing, or why it is refused. -/
def acknowledgement : Option Fault → Except Fault (Option UInt32)
  | none => .ok none
  | some fault => .error fault

end Request

/-- The access of an effect. -/
def Effect.request? : Effect → Option Request
  | .load width address _ => some (.load width address)
  | .store width address value => some (.store width address (value &&& width.mask))
  | _ => none

section Bus

variable {β : Type} [Bus β]

/-- The bus behind an access. -/
def Request.perform (bus : β) : Request → β
  | .load width address => (Bus.load width address bus).2
  | .store width address value => (Bus.store width address value bus).state

/-- The bus behind some accesses. -/
def performAll (bus : β) (requests : List Request) : β := requests.foldl Request.perform bus

/-- What the bus answers: the value of a load, nothing to a store, or why it refuses. -/
def Request.reply (bus : β) : Request → Except Fault (Option UInt32)
  | .load width address => (Bus.load width address bus).1.map some
  | .store width address value => acknowledgement (Bus.store width address value bus).fault

/-- What the bus answers to some accesses, one behind the other. -/
def replies (bus : β) : List Request → List (Except Fault (Option UInt32))
  | [] => []
  | r :: requests => r.reply bus :: replies (r.perform bus) requests

end Bus

namespace Cpu

variable {β : Type} [Bus β]

/-- The accesses of a step. -/
def requests (cpu : Cpu) (bus : β) : List Request :=
  if cpu.system.interruptPending || !AccessWidth.word.isAligned cpu.pc then []
  else
    .load .word cpu.pc ::
      match (Bus.load .word cpu.pc bus).1 with
      | .ok word => ((cpu.fetched ⟨word⟩).effect ⟨word⟩).request?.toList
      | .error _ => []

variable (cpu : Cpu) (bus : β)

/-- A step makes no access, or a fetch and one more access at most. -/
theorem requests_cases : cpu.requests bus = [] ∨
    ∃ access : Option Request, cpu.requests bus = .load .word cpu.pc :: access.toList := by
  unfold requests
  split
  · exact .inl rfl
  · refine .inr ?_
    split
    · exact ⟨_, rfl⟩
    · exact ⟨none, rfl⟩

/-- Settling an effect makes its access. -/
theorem bus_settle (e : Effect) : (cpu.settle bus e).2 = performAll bus e.request?.toList := by
  cases e with
  | load width address target =>
    show _ = (Bus.load width address bus).2
    rcases h : Bus.load width address bus with ⟨fault | value, bus'⟩ <;> simp only [settle, h]
  | store width address value =>
    show _ = (Bus.store width address (value &&& width.mask) bus).state
    rcases h : Bus.store width address (value &&& width.mask) bus with ⟨bus', _ | fault⟩ <;>
      simp only [settle, h]
  | _ => rfl

theorem bus_course : (cpu.course bus).2 = performAll bus (cpu.requests bus) := by
  have hsystem : cpu.begin.system = cpu.system := rfl
  have hpc : cpu.begin.pc = cpu.pc := rfl
  simp only [course, requests, hsystem, hpc]
  by_cases hinterrupt : cpu.system.interruptPending = true
  · rw [if_pos hinterrupt, hinterrupt]
    rfl
  by_cases haligned : (!AccessWidth.word.isAligned cpu.pc) = true
  · rw [if_neg hinterrupt, if_pos haligned, haligned, Bool.or_true]
    rfl
  rw [if_neg hinterrupt, if_neg haligned, eq_false_of_ne_true hinterrupt,
    eq_false_of_ne_true haligned, Bool.or_false, if_neg Bool.false_ne_true]
  rcases h : Bus.load .word cpu.pc bus with ⟨fault | word, bus'⟩
  · have hload : performAll bus [.load .word cpu.pc] = bus' := congrArg Prod.snd h
    simp only [hload]
    cases fault <;> rfl
  · -- the fetch comes first, and the access of the instruction behind it
    have hload : ∀ rest, performAll bus (.load .word cpu.pc :: rest) = performAll bus' rest :=
      fun rest => congrArg (performAll · rest) (congrArg Prod.snd h)
    simp only [hload]
    exact bus_settle _ bus' _

/-- **The bus behind a step**, whether the step is done or stops. -/
theorem bus_step : (cpu.step bus).state.2 = performAll bus (cpu.requests bus) := by
  rw [← bus_course]
  rcases step_cases cpu bus with ⟨i, a, bus', hcourse, hstep⟩ | ⟨fault, bus', s, hcourse, hstep⟩
  · rw [hcourse, hstep]
    rfl
  · rw [hcourse, hstep]
    rfl

end Cpu

end PlayStation

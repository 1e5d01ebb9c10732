/-
  Two BUSES in step.

  All the processor knows of a bus is what it answers.  So if two buses give the same answer to
  every access, now and ever after, then a step on one comes to what it comes to on the other: the
  same processor, whether it returns or stops, the same fault, and buses that are in step again.

  "Now and ever after" is a relation between buses that every access keeps (`InStep`).
-/
import PlayStation.Proofs.Cpu.Requests

namespace PlayStation

variable {β γ : Type} [Bus β] [Bus γ]

/-- Buses in this relation give the same answer to every access, and stay in it. -/
structure InStep (R : β → γ → Prop) : Prop where
  reply : ∀ {b : β} {c : γ} (r : Request), R b c → r.reply b = r.reply c
  perform : ∀ {b : β} {c : γ} (r : Request), R b c → R (r.perform b) (r.perform c)

namespace InStep

variable {R : β → γ → Prop} {b : β} {c : γ}

theorem load (hR : InStep R) (h : R b c) (width : AccessWidth) (address : UInt32) :
    (Bus.load width address b).1 = (Bus.load width address c).1 := by
  have hreply : (Bus.load width address b).1.map some = (Bus.load width address c).1.map some :=
    hR.reply (.load width address) h
  generalize (Bus.load width address b).1 = answer at hreply ⊢
  generalize (Bus.load width address c).1 = answer' at hreply ⊢
  cases answer <;> cases answer' <;> cases hreply <;> rfl

theorem store (hR : InStep R) (h : R b c) (width : AccessWidth) (address value : UInt32) :
    (Bus.store width address value b).fault = (Bus.store width address value c).fault := by
  have hreply : Request.acknowledgement (Bus.store width address value b).fault =
      Request.acknowledgement (Bus.store width address value c).fault :=
    hR.reply (.store width address value) h
  generalize (Bus.store width address value b).fault = fault at hreply ⊢
  generalize (Bus.store width address value c).fault = fault' at hreply ⊢
  cases fault <;> cases fault' <;> cases hreply <;> rfl

end InStep

/-- What a step comes to on two buses. -/
structure Matching (R : β → γ → Prop) (o : Outcome (Cpu × β)) (p : Outcome (Cpu × γ)) : Prop where
  cpu : o.state.1 = p.state.1
  fault : o.fault = p.fault
  bus : R o.state.2 p.state.2

namespace Cpu

variable {R : β → γ → Prop} {b : β} {c : γ}

omit [Bus β] [Bus γ] in
theorem matching_refused (h : R b c) (cpu : Cpu) (fault : Fault) :
    Matching R (cpu.refused b fault) (cpu.refused c fault) := by
  cases fault <;> exact ⟨rfl, rfl, h⟩

theorem matching_perform (hR : InStep R) (h : R b c) (cpu : Cpu) (e : Effect) :
    Matching R (cpu.perform b e) (cpu.perform c e) := by
  cases e with
  | load width address target =>
    have hanswer := hR.load h width address
    have hbus : R (Bus.load width address b).2 (Bus.load width address c).2 :=
      hR.perform (.load width address) h
    simp only [perform]
    rcases hb : Bus.load width address b with ⟨answer, b'⟩
    rcases hc : Bus.load width address c with ⟨answer', c'⟩
    rw [hb, hc] at hanswer hbus
    obtain rfl : answer = answer' := hanswer
    cases answer with
    | ok value => exact ⟨rfl, rfl, hbus⟩
    | error fault => exact cpu.matching_refused hbus fault
  | store width address value =>
    have hfault := hR.store h width address (value &&& width.mask)
    have hbus : R (Bus.store width address (value &&& width.mask) b).state
        (Bus.store width address (value &&& width.mask) c).state :=
      hR.perform (.store width address (value &&& width.mask)) h
    simp only [perform]
    rcases hb : Bus.store width address (value &&& width.mask) b with ⟨b', fault⟩
    rcases hc : Bus.store width address (value &&& width.mask) c with ⟨c', fault'⟩
    rw [hb, hc] at hfault hbus
    obtain rfl : fault = fault' := hfault
    cases fault with
    | none => exact ⟨rfl, rfl, hbus⟩
    | some fault => exact cpu.matching_refused hbus fault
  | _ => exact ⟨rfl, rfl, h⟩

theorem matching_fetchAndPerform (hR : InStep R) (h : R b c) (cpu : Cpu) :
    Matching R (cpu.fetchAndPerform b) (cpu.fetchAndPerform c) := by
  have hanswer := hR.load h .word cpu.pc
  have hbus : R (Bus.load .word cpu.pc b).2 (Bus.load .word cpu.pc c).2 :=
    hR.perform (.load .word cpu.pc) h
  unfold fetchAndPerform
  split
  · exact ⟨rfl, rfl, h⟩
  · rcases hb : Bus.load .word cpu.pc b with ⟨answer, b'⟩
    rcases hc : Bus.load .word cpu.pc c with ⟨answer', c'⟩
    rw [hb, hc] at hanswer hbus
    obtain rfl : answer = answer' := hanswer
    cases answer with
    | ok word => exact matching_perform hR hbus _ _
    | error fault => cases fault <;> exact ⟨rfl, rfl, hbus⟩

/-- What becomes of a step behind its work: it retires, unless it has stopped. -/
def finish (o : Outcome (Cpu × β)) : Outcome (Cpu × β) :=
  match o with
  | ⟨(cpu, bus), none⟩ => .done (cpu.retire, bus)
  | stopped => stopped

omit [Bus β] [Bus γ] in
theorem matching_finish {o : Outcome (Cpu × β)} {p : Outcome (Cpu × γ)} (h : Matching R o p) :
    Matching R (finish o) (finish p) := by
  obtain ⟨⟨cpu, b⟩, fault⟩ := o
  obtain ⟨⟨cpu', c⟩, fault'⟩ := p
  obtain ⟨hcpu, hfault, hbus⟩ := h
  obtain rfl : cpu = cpu' := hcpu
  obtain rfl : fault = fault' := hfault
  cases fault <;> exact ⟨rfl, rfl, hbus⟩

theorem step_eq_finish (cpu : Cpu) (bus : β) :
    cpu.step bus =
      finish
        (if cpu.begin.system.interruptPending then .done (cpu.begin.raise .interrupt, bus)
        else cpu.begin.fetchAndPerform bus) := rfl

/-- **A step** comes to the same on buses that are in step. -/
theorem matching_step (hR : InStep R) (h : R b c) (cpu : Cpu) :
    Matching R (cpu.step b) (cpu.step c) := by
  rw [step_eq_finish, step_eq_finish]
  apply matching_finish
  split
  · exact ⟨rfl, rfl, h⟩
  · exact matching_fetchAndPerform hR h cpu.begin

end Cpu

end PlayStation

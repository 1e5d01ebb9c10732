/-
  A step that a HOST FAULT stops.

  A fault can end a step in three places: in the fetch, in the access of the instruction that was
  fetched, or in front of an instruction that is not executed (`Stop`).  All three lie in front of
  everything a step writes, so there is nothing to undo.  The registers are what they were
  (`Untouched`), and no store has been accepted on the way: a store comes last, and the step stops
  only if it is refused.

  What a bus has seen is told by one that keeps a record (`Watched`).  It answers as the bus inside
  of it, so the step on it is the step that is made without a record (`matching_watched`).
-/
import PlayStation.Proofs.Cpu.Buses
import PlayStation.Proofs.Memory.ByteStore

namespace PlayStation

variable {β : Type} [Bus β]

/-! ## A bus with a record -/

/-- An access, and what the bus answered. -/
structure Exchange where
  request : Request
  answer : Except Fault (Option UInt32)

namespace Exchange

/-- A store that was accepted. -/
def Stored (x : Exchange) : Prop :=
  (∃ width address value, x.request = .store width address value) ∧ ∃ value, x.answer = .ok value

theorem not_stored_load (width : AccessWidth) (address : UInt32)
    (answer : Except Fault (Option UInt32)) :
    ¬(Exchange.mk (.load width address) answer).Stored := by
  rintro ⟨⟨_, _, _, h⟩, -⟩
  cases h

theorem not_stored_refused (r : Request) (fault : Fault) :
    ¬(Exchange.mk r (.error fault)).Stored := by
  rintro ⟨-, _, h⟩
  cases h

end Exchange

/-- A bus with a record of what was asked of it and what it answered. -/
structure Watched (β : Type) where
  inner : β
  seen : List Exchange

namespace Watched

/-- A bus, with nothing seen yet. -/
def watch (bus : β) : Watched β := ⟨bus, []⟩

/-- Makes an access and writes it down. -/
def note (bus : Watched β) (r : Request) : Watched β where
  inner := r.perform bus.inner
  seen := bus.seen ++ [⟨r, r.reply bus.inner⟩]

instance : Bus (Watched β) where
  load width address bus :=
    ((Bus.load width address bus.inner).1, bus.note (.load width address))
  store width address value bus :=
    ⟨bus.note (.store width address value), (Bus.store width address value bus.inner).fault⟩

/-- A record is not noticed. -/
theorem inStep : InStep fun (w : Watched β) (bus : β) => w.inner = bus where
  reply r h := by
    subst h
    cases r <;> rfl
  perform r h := by
    subst h
    cases r <;> rfl

/-- The record goes on with the accesses that are made, and the answers to them. -/
theorem seen_performAll (bus : Watched β) (requests : List Request) :
    (performAll bus requests).seen =
      bus.seen ++ List.zipWith Exchange.mk requests (replies bus.inner requests) := by
  induction requests generalizing bus with
  | nil => exact (List.append_nil _).symm
  | cons r requests ih =>
    have hnote : r.perform bus = bus.note r := by cases r <;> rfl
    have hfirst : performAll bus (r :: requests) = performAll (bus.note r) requests :=
      congrArg (performAll · requests) hnote
    rw [hfirst, ih, note, List.append_assoc]
    rfl

end Watched

namespace Cpu

/-- What the bus sees of a step. -/
def record (cpu : Cpu) (bus : β) : List Exchange :=
  (cpu.step (Watched.watch bus)).state.2.seen

/-- A step on a bus with a record is the step on the bus. -/
theorem matching_watched (cpu : Cpu) (bus : β) :
    Matching (fun w b => w.inner = b) (cpu.step (Watched.watch bus)) (cpu.step bus) :=
  matching_step Watched.inStep rfl cpu

/-! ## Where a step stops -/

variable {cpu : Cpu} {bus : β} {fault : Fault}

/-- A step stops in the fetch, in the access of the fetched instruction, or because that instruction
is not executed. -/
inductive Stop (cpu : Cpu) (bus : β) (fault : Fault) : List Request → Cpu → Prop where
  | fetch (h : (Request.load .word cpu.pc).reply bus = .error fault) :
    Stop cpu bus fault [.load .word cpu.pc] cpu.begin
  | access {word : UInt32} {r : Request}
    (hword : (Request.load .word cpu.pc).reply bus = .ok (some word))
    (h : r.reply ((Request.load .word cpu.pc).perform bus) = .error fault) :
    Stop cpu bus fault [.load .word cpu.pc, r] (cpu.ready ⟨word⟩)
  | unexecuted {word : UInt32}
    (hword : (Request.load .word cpu.pc).reply bus = .ok (some word))
    (h : fault = .unimplemented word cpu.pc) :
    Stop cpu bus fault [.load .word cpu.pc] (cpu.ready ⟨word⟩)

omit [Bus β] in
theorem refusal_eq_error {refused : Fault} (h : refusal refused = .error fault) :
    refused = fault := by
  cases refused <;> cases h <;> rfl

/-- An effect settles to a fault if its access is refused with it, or if it is not executed. -/
theorem settle_error_cases {e : Effect} (h : (cpu.settle bus e).1 = .error fault) :
    (∃ r, e.request? = some r ∧ r.reply bus = .error fault) ∨
      (e.request? = none ∧ fault = .unimplemented cpu.instruction.word cpu.currentPc) := by
  cases e with
  | load width address target =>
    rcases hload : Bus.load width address bus with ⟨refused | value, bus'⟩
    · simp only [settle, hload] at h
      refine .inl ⟨_, rfl, ?_⟩
      rw [Request.reply, hload, refusal_eq_error h]
      rfl
    · simp only [settle, hload] at h
      cases h
  | store width address value =>
    rcases hstore : Bus.store width address (value &&& width.mask) bus with ⟨bus', _ | refused⟩
    · simp only [settle, hstore] at h
      cases h
    · simp only [settle, hstore] at h
      refine .inl ⟨_, rfl, ?_⟩
      rw [Request.reply, hstore, refusal_eq_error h]
      rfl
  | unimplemented => exact .inr ⟨rfl, (Except.error.inj h).symm⟩
  | _ => cases h

omit [Bus β] in
theorem fault_of_finish {o : Outcome (Cpu × β)} (h : (finish o).fault = some fault) :
    o.fault = some fault := by
  obtain ⟨⟨cpu, bus⟩, _ | refused⟩ := o
  · cases h
  · exact h

/-- The work behind a refused fetch. -/
theorem fetchAndPerform_of_refused {refused : Fault} {bus' : β}
    (haligned : ¬(!AccessWidth.word.isAligned cpu.pc) = true)
    (hload : Bus.load .word cpu.pc bus = (.error refused, bus'))
    (h : (cpu.begin.fetchAndPerform bus).fault = some fault) :
    refused = fault ∧ cpu.begin.fetchAndPerform bus = .stopped fault (cpu.begin, bus') := by
  have hmisaligned : ¬(!AccessWidth.word.isAligned cpu.begin.pc) = true := haligned
  have hbegin : Bus.load .word cpu.begin.pc bus = (.error refused, bus') := hload
  unfold fetchAndPerform at h ⊢
  rw [if_neg hmisaligned, hbegin] at h ⊢
  cases refused <;> cases h <;> exact ⟨rfl, rfl⟩

/-- The work behind a word that was fetched. -/
theorem fetchAndPerform_of_word {word : UInt32} {bus' : β}
    (haligned : ¬(!AccessWidth.word.isAligned cpu.pc) = true)
    (hload : Bus.load .word cpu.pc bus = (.ok word, bus')) :
    cpu.begin.fetchAndPerform bus =
      match (cpu.fetched ⟨word⟩).settle bus' ((cpu.fetched ⟨word⟩).effect ⟨word⟩) with
      | (.ok a, bus) => .done ((cpu.ready ⟨word⟩).act a, bus)
      | (.error fault, bus) => .stopped fault (cpu.ready ⟨word⟩, bus) := by
  have hmisaligned : ¬(!AccessWidth.word.isAligned cpu.begin.pc) = true := haligned
  have hbegin : Bus.load .word cpu.begin.pc bus = (.ok word, bus') := hload
  refine Eq.trans ?_ (cpu.perform_ready ⟨word⟩ bus')
  unfold fetchAndPerform
  rw [if_neg hmisaligned, hbegin]
  rfl

/-- **A step that stops** stops in one of those places. -/
theorem stop_of_fault (h : (cpu.step bus).fault = some fault) :
    Stop cpu bus fault (cpu.requests bus) (cpu.step bus).state.1 := by
  rw [step_eq_finish] at h ⊢
  by_cases hinterrupt : cpu.begin.system.interruptPending = true
  · rw [if_pos hinterrupt] at h
    cases h
  rw [if_neg hinterrupt] at h ⊢
  by_cases hmisaligned : (!AccessWidth.word.isAligned cpu.pc) = true
  · have htrap : cpu.begin.fetchAndPerform bus = .done (cpu.begin.trap _, bus) := if_pos hmisaligned
    rw [htrap] at h
    cases h
  have hfetches : (cpu.system.interruptPending || !AccessWidth.word.isAligned cpu.pc) = false :=
    Bool.or_eq_false_iff.2 ⟨eq_false_of_ne_true hinterrupt, eq_false_of_ne_true hmisaligned⟩
  rw [requests, hfetches, if_neg Bool.false_ne_true]
  rcases hload : Bus.load .word cpu.pc bus with ⟨refused | word, bus'⟩
  · -- of the refusals only one ends in a trap, and then the step does not stop
    have hreply : (Request.load .word cpu.pc).reply bus = .error refused := by
      rw [Request.reply, hload]
      rfl
    obtain ⟨rfl, hwork⟩ := fetchAndPerform_of_refused hmisaligned hload (fault_of_finish h)
    rw [hwork]
    exact .fetch hreply
  · have hreply : (Request.load .word cpu.pc).reply bus = .ok (some word) := by
      rw [Request.reply, hload]
      rfl
    have hperform : (Request.load .word cpu.pc).perform bus = bus' := congrArg Prod.snd hload
    rw [fetchAndPerform_of_word hmisaligned hload] at h ⊢
    rcases hsettle : (cpu.fetched ⟨word⟩).settle bus' ((cpu.fetched ⟨word⟩).effect ⟨word⟩)
      with ⟨refused | a, bus''⟩
    · rw [hsettle] at h
      obtain rfl : refused = fault := Option.some.inj h
      obtain ⟨r, hrequest, hr⟩ | ⟨hrequest, hfault⟩ :=
        settle_error_cases (congrArg Prod.fst hsettle)
      · simp only [hrequest]
        exact .access hreply (hperform.symm ▸ hr)
      · simp only [hrequest]
        exact .unexecuted hreply hfault
    · rw [hsettle] at h
      cases h

/-! ## What a step that stops leaves -/

/-- The registers, and the count of the steps, are what they were. -/
structure Untouched (cpu cpu' : Cpu) : Prop where
  regs : cpu'.regs = cpu.regs
  hiLo : cpu'.hiLo = cpu.hiLo
  system : cpu'.system = cpu.system
  geometry : cpu'.geometry = cpu.geometry
  steps : cpu'.steps = cpu.steps

omit [Bus β] in
theorem untouched_ready (cpu : Cpu) (i : Instruction) : cpu.Untouched (cpu.ready i) := by
  unfold ready redirect
  split <;> exact ⟨rfl, rfl, rfl, rfl, rfl⟩

theorem Stop.untouched {requests : List Request} {cpu' : Cpu}
    (h : Stop cpu bus fault requests cpu') : cpu.Untouched cpu' := by
  cases h with
  | fetch => exact ⟨rfl, rfl, rfl, rfl, rfl⟩
  | access => exact cpu.untouched_ready _
  | unexecuted => exact cpu.untouched_ready _

/-- The record of a step has its accesses, with the answers to them. -/
theorem record_eq (cpu : Cpu) (bus : β) :
    cpu.record bus =
      List.zipWith Exchange.mk (cpu.requests bus) (replies bus (cpu.requests bus)) :=
  (congrArg Watched.seen (cpu.bus_step (Watched.watch bus))).trans
    ((Watched.watch bus).seen_performAll (cpu.requests bus))

/-- **A step that a fault stops** has changed no register, and on the record of it no store has been
accepted.  Either the bus has refused the last access with this fault, or nothing was asked of it
but a word to execute, and the fault names that word and its address. -/
theorem step_stopped (h : (cpu.step bus).fault = some fault) :
    cpu.Untouched (cpu.step bus).state.1 ∧
      Matching (fun w b => w.inner = b) (cpu.step (Watched.watch bus)) (cpu.step bus) ∧
      (∀ x ∈ cpu.record bus, ¬x.Stored) ∧
      ((∃ before r, cpu.record bus = before ++ [⟨r, .error fault⟩]) ∨
        ∃ word, cpu.record bus = [⟨.load .word cpu.pc, .ok (some word)⟩] ∧
          fault = .unimplemented word cpu.pc) := by
  have hstop := stop_of_fault h
  refine ⟨hstop.untouched, cpu.matching_watched bus, ?_⟩
  rw [record_eq]
  generalize cpu.requests bus = requests at hstop ⊢
  generalize (cpu.step bus).state.1 = cpu' at hstop
  cases hstop with
  | fetch hfetch =>
    simp only [replies, hfetch, List.zipWith]
    exact ⟨List.forall_mem_singleton.2 (Exchange.not_stored_load _ _ _), .inl ⟨[], _, rfl⟩⟩
  | access hword hr =>
    simp only [replies, hword, hr, List.zipWith]
    exact ⟨List.forall_mem_cons.2 ⟨Exchange.not_stored_load _ _ _,
      List.forall_mem_singleton.2 (Exchange.not_stored_refused _ _)⟩, .inl ⟨[_], _, rfl⟩⟩
  | unexecuted hword hfault =>
    simp only [replies, hword, List.zipWith]
    exact ⟨List.forall_mem_singleton.2 (Exchange.not_stored_load _ _ _), .inr ⟨_, rfl, hfault⟩⟩

/-- A word that stores register 0 at 0x200, on a bus that breaks down there. -/
def brokenStore : Guarded ByteStore where
  inner :=
    { image := fun _ => 0
      byte := fun c => if c = 0x101 then 0x02 else if c = 0x103 then 0xAC else 0 }
  word := some 0x200
  fault := .unreadable

theorem step_stopped_store :
    (({ reset with pc := 0x80000100 } : Cpu).step brokenStore).fault = some .unreadable ∧
      ({ reset with pc := 0x80000100 } : Cpu).Untouched
        (({ reset with pc := 0x80000100 } : Cpu).step brokenStore).state.1 ∧
      ∀ x ∈ ({ reset with pc := 0x80000100 } : Cpu).record brokenStore, ¬x.Stored := by
  have hfault : (({ reset with pc := 0x80000100 } : Cpu).step brokenStore).fault =
      some .unreadable := by decide +kernel
  have hstopped := step_stopped hfault
  exact ⟨hfault, hstopped.1, hstopped.2.2.1⟩

end Cpu

end PlayStation

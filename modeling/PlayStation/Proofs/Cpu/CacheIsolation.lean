/-
  CACHE ISOLATION.

  While the status register isolates the cache, a store goes to the cache and not to memory.  That
  is how the instruction cache is flushed: software writes zeros all over it, and they must not
  reach RAM.  The three stores of general registers ask for it; the store of a register of the
  geometry engine does not.

  1. **Stores** (`Cpu.Spills`): a step with the cache isolated stores just if it fetches a store of
     the geometry engine that is neither refused nor misaligned (`request_of_isolated`).

  2. **Memory** (`memory_step_isolated`): any other step leaves memory as it is, whatever it
     executes, whether it raises an exception, returns or stops.  That one store writes its word
     (`spill_reaches_ram`).
-/
import PlayStation.Proofs.Cpu.Effects
import PlayStation.Proofs.Cpu.Faults
import PlayStation.Proofs.Cpu.Requests

namespace PlayStation

namespace Cpu

variable {cpu : Cpu} {i : Instruction}

/-! ## Effects that store -/

/-- With the cache isolated, an effect that stores is the store of the geometry engine. -/
theorem store_of_isolated (hisolated : cpu.system.cacheIsolated = true) {width : AccessWidth}
    {address value : UInt32} (heffect : cpu.effect i = .store width address value) :
    i.operation = .swc .two ∧ cpu.system.usable .two = true ∧
      AccessWidth.word.isAligned (cpu.effectiveAddress i) = true ∧
      Effect.store width address value =
        .store .word (cpu.effectiveAddress i) (cpu.geometry.data.entry i.rt) := by
  have hmeans := cpu.means_effect i
  rw [heffect] at hmeans
  generalize i.operation = operation at hmeans ⊢
  cases hmeans with
  | plain hplain hlocal => cases hlocal
  | store hstore hopen width =>
    rw [hisolated] at hopen
    cases hopen
  | storeGeometry husable haligned => exact ⟨rfl, husable, haligned, rfl⟩
  | work hother hlocal => cases hlocal

/-- The step executes a store of the geometry engine, and nothing stands in the way of it. -/
structure Spills {β : Type} [Bus β] (cpu : Cpu) (bus : β) (i : Instruction) : Prop where
  fetches : cpu.Fetches bus i.word
  operation : i.operation = .swc .two
  usable : cpu.system.usable .two = true
  aligned : AccessWidth.word.isAligned (cpu.effectiveAddress i) = true

/-- Such an instruction stores its register. -/
theorem effect_of_spills {β : Type} [Bus β] {bus : β} (h : cpu.Spills bus i) :
    (cpu.fetched i).effect i =
      .store .word (cpu.effectiveAddress i) (cpu.geometry.data.entry i.rt) := by
  have hfetched : (cpu.fetched i).storeCoprocessor i .two = cpu.storeCoprocessor i .two := rfl
  unfold effect
  simp only [h.operation]
  rw [hfetched]
  simp only [storeCoprocessor, aligned, h.usable, h.aligned]
  rfl

/-! ## The bus behind a step -/

variable {β : Type} [Bus β] {bus : β}

/-- What a step asks of the bus with the cache isolated: to load, unless it spills. -/
theorem request_of_isolated (hisolated : cpu.system.cacheIsolated = true) {r : Request}
    (hr : r ∈ cpu.requests bus) : (∃ width address, r = .load width address) ∨
      ∃ i, cpu.Spills bus i ∧
        r = .store .word (cpu.effectiveAddress i)
          (cpu.geometry.data.entry i.rt &&& AccessWidth.word.mask) := by
  unfold requests at hr
  split at hr
  · cases hr
  next hgoes =>
  rw [Bool.not_eq_true, Bool.or_eq_false_iff, Bool.not_eq_false'] at hgoes
  rcases List.mem_cons.1 hr with rfl | haccess
  · exact .inl ⟨_, _, rfl⟩
  split at haccess
  · next word hanswer =>
    have hfetches : cpu.Fetches bus word := ⟨hgoes.1, hgoes.2, hanswer⟩
    cases heffect : (cpu.fetched ⟨word⟩).effect ⟨word⟩ with
    | load width address target =>
      rw [heffect] at haccess
      obtain rfl := List.mem_singleton.1 haccess
      exact .inl ⟨_, _, rfl⟩
    | store width address value =>
      rw [heffect] at haccess
      obtain rfl := List.mem_singleton.1 haccess
      have hfetched : (cpu.fetched ⟨word⟩).system.cacheIsolated = true := hisolated
      obtain ⟨hoperation, husable, haligned, hstore⟩ := store_of_isolated hfetched heffect
      cases hstore
      exact .inr ⟨⟨word⟩, ⟨hfetches, hoperation, husable, haligned⟩, rfl⟩
    | _ =>
      rw [heffect] at haccess
      cases haccess
  · cases haccess

/-- The accesses of a step that spills: the fetch, and the store behind it. -/
theorem requests_of_spills (h : cpu.Spills bus i) : cpu.requests bus =
    [.load .word cpu.pc, .store .word (cpu.effectiveAddress i)
      (cpu.geometry.data.entry i.rt &&& AccessWidth.word.mask)] := by
  have hgoes : (cpu.system.interruptPending || !AccessWidth.word.isAligned cpu.pc) = false := by
    rw [h.fetches.quiet, h.fetches.aligned]
    rfl
  rw [requests, hgoes, h.fetches.answer]
  simp only [effect_of_spills h]
  rfl

/-! ## Memory -/

/-- Loads leave memory as it is. -/
theorem performAll_loads (m : Memory) {requests : List Request}
    (h : ∀ r ∈ requests, ∃ width address, r = .load width address) :
    performAll m requests = m := by
  induction requests with
  | nil => rfl
  | cons r rest ih =>
    obtain ⟨width, address, rfl⟩ := h r (List.mem_cons_self ..)
    exact ih fun q hq => h q (List.mem_cons_of_mem _ hq)

/-- A step that spills writes its word, whatever the cache does. -/
theorem memory_of_spills {m : Memory} (h : cpu.Spills m i) : (cpu.step m).state.2 =
    (m.write .word (cpu.effectiveAddress i) (cpu.geometry.data.entry i.rt)).state := by
  have hmask : cpu.geometry.data.entry i.rt &&& AccessWidth.word.mask =
      cpu.geometry.data.entry i.rt := UInt32.and_neg_one
  rw [bus_step, requests_of_spills h, hmask]
  rfl

/-- **A cache that is isolated** keeps memory from every step, but for a store of the geometry
engine: that one writes its word. -/
theorem memory_step_isolated (hisolated : cpu.system.cacheIsolated = true) (m : Memory) :
    ((∀ i, ¬cpu.Spills m i) → (cpu.step m).state.2 = m) ∧
    ∀ i, cpu.Spills m i → (cpu.step m).state.2 =
      (m.write .word (cpu.effectiveAddress i) (cpu.geometry.data.entry i.rt)).state := by
  constructor
  · intro hnone
    rw [bus_step]
    apply performAll_loads
    intro r hr
    rcases request_of_isolated hisolated hr with hload | ⟨i, hspills, -⟩
    · exact hload
    · exact absurd hspills (hnone i)
  · intro i hspills
    exact memory_of_spills hspills

/-! ## Two stores to RAM -/

/-- The processor with its cache isolated, the geometry engine usable and a word in the register that
it is going to store, in front of an instruction in RAM. -/
def flushing : Cpu :=
  { reset with
    pc := 0x80010000
    system := { SystemControl.reset with status := 0x40010000 }
    geometry := GeometryRegisters.reset.setData (Instruction.rt ⟨0xE8010100⟩) 0x12345678 }

/-- RAM with that instruction; the word at 0x100 is zero. -/
def flushed (word : UInt32) : Memory :=
  (Memory.blank.setRamWord 0x100 0).setRamWord 0x80010000 word

theorem fetches_flushed (word : UInt32) : flushing.Fetches (flushed word) word := by
  have hfetches : flushing.Fetches (flushed word) ((flushed word).ramWord 0x80010000) :=
    fetches_ram (by decide) (by decide) (by decide)
  rwa [flushed, Memory.ramWord_setRamWord_self] at hfetches

/-- The store of a general register to address 0x100 goes nowhere. -/
theorem memory_step_isolated_word : flushing.system.cacheIsolated = true ∧
    (flushing.step (flushed 0xAC010100)).state.2 = flushed 0xAC010100 := by
  have hisolated : flushing.system.cacheIsolated = true := by decide
  refine ⟨hisolated, (memory_step_isolated hisolated _).1 ?_⟩
  -- the bus has one answer, and it is not a store of the geometry engine
  intro i hspills
  have hword : i.word = 0xAC010100 :=
    Except.ok.inj (hspills.fetches.answer.symm.trans (fetches_flushed 0xAC010100).answer)
  have hoperation := hspills.operation
  obtain ⟨word⟩ := i
  obtain rfl : word = 0xAC010100 := hword
  exact absurd hoperation (by decide)

/-- **A store of the geometry engine** to address 0x100 reaches RAM through the isolated cache. -/
theorem spill_reaches_ram : flushing.system.cacheIsolated = true ∧
    (flushed 0xE8010100).ramWord 0x100 = 0 ∧
    (flushing.step (flushed 0xE8010100)).state.2.ramWord 0x100 = 0x12345678 := by
  have hspills : flushing.Spills (flushed 0xE8010100) ⟨0xE8010100⟩ :=
    ⟨fetches_flushed 0xE8010100, by decide, by decide, by decide⟩
  have haddress : flushing.effectiveAddress ⟨0xE8010100⟩ = 0x100 := by decide
  have hvalue : flushing.geometry.data.entry (Instruction.rt ⟨0xE8010100⟩) = 0x12345678 := by
    decide
  have hmemory : (flushing.step (flushed 0xE8010100)).state.2 =
      (flushed 0xE8010100).setRamWord 0x100 0x12345678 := by
    rw [memory_of_spills hspills, haddress, hvalue,
      Memory.write_word_ram _ (by decide) (by decide)]
    rfl
  refine ⟨by decide, ?_, ?_⟩
  · rw [flushed, Memory.ramWord_setRamWord_of_ne _ (by decide), Memory.ramWord_setRamWord_self]
  · rw [hmemory, Memory.ramWord_setRamWord_self]

end Cpu

end PlayStation

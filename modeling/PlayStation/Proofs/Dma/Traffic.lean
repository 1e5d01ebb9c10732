/-
  The TRAFFIC between RAM and the GPU.

  A `System` is the controller with the RAM and the GPU it moves words between.  It is driven by a
  schedule of moves: steps of the controller, anything that can be done with a GPU (its own steps
  above all), and new priorities and enables in between.

  1. **A step of a channel** is a step that waits or an access to one word of RAM (`Access`).  What
     the channel does next and whether it has to wait stand in its registers and its place
     (`Channel.access?`, `Channel.waits`), and so does where it goes from there, but for the header
     of a packet, which lies in RAM (`Channel.serve`).  That is all there is to `Channel.advance`
     (`advance_eq`).

  2. **A step of the controller** gives the bus to one channel and leaves the others alone
     (`channel_move_dma`), and RAM and GPU feel the one access of that channel, if there is one
     (`memory_move_dma`, `gpu_move_dma`).

  3. **The log** of a schedule is the list of these accesses with the words they moved.  It says
     what becomes of the memory (`System.memory_run`).
-/
import PlayStation.Proofs.Dma.Arbitration
import PlayStation.Proofs.Gpu.Reachable
import PlayStation.Proofs.Memory.Words

namespace PlayStation.Dma

/-! ## Accesses -/

/-- What a step of a channel does with one word of RAM. -/
inductive Access where
  /-- The header of a packet is read. -/
  | header (address : UInt32)
  /-- A word of a packet is read and queued with the GPU. -/
  | payload (address : UInt32)
  /-- A word of a block is read and queued with the GPU. -/
  | push (address : UInt32)
  /-- A word of a block is taken from the GPU and stored. -/
  | pull (address : UInt32)
  /-- An entry of an ordering table is stored. -/
  | entry (address value : UInt32)
deriving DecidableEq, Repr

namespace Access

/-- The word of RAM that is accessed. -/
def address : Access → UInt32
  | .header address | .payload address | .push address | .pull address | .entry address _ => address

/-- The access stores a word. -/
def stores : Access → Bool
  | .pull _ | .entry _ _ => true
  | .header _ | .payload _ | .push _ => false

/-- The access belongs to a list transfer. -/
def isList : Access → Bool
  | .header _ | .payload _ => true
  | .push _ | .pull _ | .entry _ _ => false

/-- The access has nothing to do with the GPU. -/
def isSilent : Access → Bool
  | .header _ | .entry _ _ => true
  | .payload _ | .push _ | .pull _ => false

/-- The word that is moved. -/
def word (memory : Memory) (gpu : Gpu) : Access → UInt32
  | .header address | .payload address | .push address => memory.ramWord address
  | .pull _ => gpu.readWord.1
  | .entry _ value => value

/-- An access that stores nothing moves the word that is there. -/
theorem word_of_reads {a : Access} {memory : Memory} {gpu : Gpu} (h : a.stores = false) :
    a.word memory gpu = memory.ramWord a.address := by
  cases a with
  | pull address => cases h
  | entry address value => cases h
  | _ => rfl

end Access

/-- An access on the bus: who made it, and the word that was moved. -/
structure BusCycle where
  channel : ChannelIndex
  access : Access
  word : UInt32
deriving DecidableEq, Repr

namespace BusCycle

/-- What becomes of the memory. -/
def store (e : BusCycle) (memory : Memory) : Memory :=
  if e.access.stores then memory.setRamWord e.access.address e.word else memory

/-- The word is queued with the GPU. -/
def pushed? (e : BusCycle) : Option UInt32 :=
  match e.access with
  | .payload _ | .push _ => some e.word
  | .header _ | .pull _ | .entry _ _ => none

/-- What becomes of the GPU. -/
def deliver (e : BusCycle) (gpu : Gpu) : Gpu :=
  match e.access with
  | .payload _ | .push _ => gpu.queue e.word
  | .pull _ => gpu.readWord.2
  | .header _ | .entry _ _ => gpu

/-- A word at another place is what it was. -/
theorem ramWord_store (e : BusCycle) {memory : Memory} {address : UInt32}
    (h : e.access.stores = true →
      Memory.wordOffset e.access.address ≠ Memory.wordOffset address) :
    (e.store memory).ramWord address = memory.ramWord address := by
  unfold store
  by_cases hstores : e.access.stores = true
  · rw [if_pos hstores]
    exact memory.ramWord_setRamWord_of_ne (h hstores) e.word
  · rw [if_neg hstores]

end BusCycle

/-- The words that are queued with the GPU. -/
def pushed (log : List BusCycle) : List UInt32 := log.filterMap BusCycle.pushed?

/-- The word that an access would queue with the GPU. -/
def Access.queued? (memory : Memory) : Access → Option UInt32
  | .payload address | .push address => some (memory.ramWord address)
  | .header _ | .pull _ | .entry _ _ => none

/-- Where the words that are read are known, so are those that are queued. -/
theorem pushed_eq {memory : Memory} {log : List BusCycle}
    (h : ∀ e ∈ log, e.access.stores = false → e.word = memory.ramWord e.access.address) :
    pushed log = (log.map (·.access)).filterMap (Access.queued? memory) := by
  induction log with
  | nil => rfl
  | cons e log ih =>
    rw [List.forall_mem_cons] at h
    have hrest : log.filterMap BusCycle.pushed? = _ := ih h.2
    have hfirst : e.pushed? = e.access.queued? memory := by
      obtain ⟨i, access, word⟩ := e
      cases access with
      | payload address => exact congrArg some (h.1 rfl)
      | push address => exact congrArg some (h.1 rfl)
      | _ => rfl
    rw [pushed, List.map_cons, List.filterMap_cons, List.filterMap_cons, hfirst, hrest]

/-! ## A step of a channel -/

namespace Channel

/-- The access that the channel makes next. -/
def access? (c : Channel) : Option Access :=
  match c.transfer with
  | none => none
  | some (.block b) =>
    if c.device = .otc then some (.entry b.address (tableEntry b))
    else
      match c.direction with
      | .fromRam => some (.push b.address)
      | .toRam => some (.pull b.address)
  | some (.list address .header) => some (.header address)
  | some (.list address (.payload _ _)) => some (.payload address)

/-- The channel has to wait for the GPU. -/
def waits (c : Channel) (gpu : Gpu) : Bool :=
  match c.transfer with
  | none => false
  | some (.block _) => c.blockWaits gpu
  | some (.list _ _) => listWaits gpu

/-- The channel has to wait for the GPU before an access. -/
def waitsFor (c : Channel) (a : Access) (gpu : Gpu) : Bool :=
  if a.isList then listWaits gpu else c.blockWaits gpu

theorem waits_of_access {c : Channel} {a : Access} (h : c.access? = some a) (gpu : Gpu) :
    c.waits gpu = c.waitsFor a gpu := by
  rw [access?] at h
  rw [waits]
  cases htransfer : c.transfer with
  | none =>
    rw [htransfer] at h
    cases h
  | some transfer =>
    rw [htransfer] at h
    cases transfer with
    | block b =>
      -- all accesses of a block look at the same flags
      simp only at h
      split at h
      · cases h
        rfl
      · split at h <;> cases h <;> rfl
    | list address phase => cases phase <;> cases h <;> rfl

/-- Where the channel goes with an access. -/
def pass (c : Channel) (memory : Memory) : Progress × Channel :=
  match c.transfer with
  | none => (.complete, c)
  | some (.block b) => c.passBlock b
  | some (.list address .header) => c.readHeader address (memory.ramWord address)
  | some (.list address (.payload remaining next)) => c.passPayload address remaining next

/-- The channel as the controller keeps it: freed when its transfer is over. -/
def settle : Progress × Channel → Channel
  | (.complete, c) => c.finish
  | (.busy, c) | (.waiting, c) => c

/-- The channel behind an access. -/
def serve (c : Channel) (memory : Memory) : Channel := settle (c.pass memory)

/-- An access leads somewhere, and the channel is freed there if it was the last one. -/
theorem serve_cases (c : Channel) (memory : Memory) :
    c.serve memory = (c.pass memory).2 ∨ c.serve memory = (c.pass memory).2.finish := by
  unfold serve
  obtain ⟨progress, d⟩ := c.pass memory
  cases progress with
  | complete => exact .inr rfl
  | _ => exact .inl rfl

theorem serve_of_complete {c : Channel} {memory : Memory} (h : (c.pass memory).1 = .complete) :
    c.serve memory = (c.pass memory).2.finish := by
  unfold serve
  generalize c.pass memory = step at h ⊢
  obtain ⟨progress, d⟩ := step
  obtain rfl : progress = .complete := h
  rfl

theorem serve_of_more {c : Channel} {memory : Memory} (h : (c.pass memory).1 ≠ .complete) :
    c.serve memory = (c.pass memory).2 := by
  unfold serve
  generalize c.pass memory = step at h ⊢
  obtain ⟨progress, d⟩ := step
  cases progress with
  | complete => exact absurd rfl h
  | _ => rfl

/-- The bus cycle of a transfer's next access, if it does not wait. -/
def attempt? (c : Channel) (i : ChannelIndex) (memory : Memory) (gpu : Gpu) : Option BusCycle :=
  if c.waits gpu then none else c.access?.map fun a => ⟨i, a, a.word memory gpu⟩

end Channel

/-- What a cycle makes of memory and GPU; without one they stay. -/
def transact (cycle : Option BusCycle) (memory : Memory) (gpu : Gpu) : Memory × Gpu :=
  match cycle with
  | none => (memory, gpu)
  | some e => (e.store memory, e.deliver gpu)

namespace Channel

/-- **A step of a channel** waits, or goes on with an access. -/
theorem advance_eq (c : Channel) (i : ChannelIndex) (memory : Memory) (gpu : Gpu) :
    c.advance memory gpu =
      (if c.waits gpu then (.waiting, c) else c.pass memory,
        transact (c.attempt? i memory gpu) memory gpu) := by
  unfold advance attempt? waits pass access?
  cases c.transfer with
  | none => rfl
  | some transfer =>
    cases transfer with
    | block b =>
      simp only
      cases c.blockWaits gpu with
      | true => rfl
      | false =>
        unfold moveWord
        by_cases hotc : c.device = .otc
        · simp only [hotc]
          rfl
        · simp only [if_neg hotc]
          cases c.direction <;> rfl
    | list address phase =>
      cases phase <;> simp only <;> cases listWaits gpu <;> rfl

/-- The bus cycle of a step that gives the channel the bus. -/
def cycle? (c : Channel) (i : ChannelIndex) (memory : Memory) (gpu : Gpu) : Option BusCycle :=
  match started? c i with
  | none => none
  | some c => c.attempt? i memory gpu

/-- The channel behind a step that gives it the bus. -/
def stepped (c : Channel) (i : ChannelIndex) (memory : Memory) (gpu : Gpu) : Channel :=
  match started? c i with
  | none => c.finish
  | some c => if c.waits gpu then c else c.serve memory

section Step

variable {c d : Channel} {i : ChannelIndex} {memory : Memory} {gpu : Gpu}

/-- A refused request is over. -/
theorem step_of_refused (h : started? c i = none) :
    c.cycle? i memory gpu = none ∧ c.stepped i memory gpu = c.finish := by
  rw [cycle?, stepped, h]
  exact ⟨rfl, rfl⟩

/-- A transfer that waits stays where it is. -/
theorem step_of_waits (h : started? c i = some d) (hwaits : d.waits gpu = true) :
    c.cycle? i memory gpu = none ∧ c.stepped i memory gpu = d := by
  rw [cycle?, stepped, h]
  exact ⟨if_pos hwaits, if_pos hwaits⟩

/-- A transfer that need not wait goes on with its access. -/
theorem step_of_ready (h : started? c i = some d) (hready : d.waits gpu = false) :
    c.cycle? i memory gpu = d.access?.map (fun a => ⟨i, a, a.word memory gpu⟩) ∧
    c.stepped i memory gpu = d.serve memory := by
  rw [cycle?, stepped, h]
  simp only [attempt?, hready, Bool.false_eq_true, if_false, and_self]

end Step

end Channel

/-! ## Systems and schedules -/

/-- The controller with the RAM and the GPU it moves words between. -/
structure System where
  dma : Dma
  memory : Memory
  gpu : Gpu

/-- One move of a schedule. -/
inductive Move where
  /-- A step of the controller. -/
  | dma
  /-- Something is done with the GPU. -/
  | gpu (operation : Gpu.Operation)
  /-- Priorities and enables are written. -/
  | dpcr (value : UInt32)

namespace Move

/-- The move is a step of the controller. -/
def isDma : Move → Bool
  | .dma => true
  | .gpu _ | .dpcr _ => false

/-- The move leaves priorities and enables alone. -/
def keepsDpcr : Move → Bool
  | .dma | .gpu _ => true
  | .dpcr _ => false

/-- The move is a step, of the controller or of the GPU. -/
def isStep : Move → Bool
  | .dma | .gpu .step => true
  | .gpu _ | .dpcr _ => false

theorem keepsDpcr_of_isStep {move : Move} (h : move.isStep = true) : move.keepsDpcr = true := by
  cases move with
  | dpcr value => cases h
  | _ => rfl

end Move

namespace System

/-- The offset of the control register in the controller's window. -/
def dpcrOffset : UInt32 := 0x70

/-- Makes a move. -/
def move (s : System) : Move → System
  | .dma =>
    let (_, dma, memory, gpu) := s.dma.step s.memory s.gpu
    ⟨dma, memory, gpu⟩
  | .gpu operation => { s with gpu := s.gpu.perform operation }
  | .dpcr value => { s with dma := s.dma.write dpcrOffset value }

/-- Goes through a schedule. -/
def run (s : System) : List Move → System
  | [] => s
  | move :: moves => (s.move move).run moves

/-- A channel. -/
def channel (s : System) (i : ChannelIndex) : Channel := s.dma.channel i

/-- The bus cycle that the controller's next step makes: none if no channel asks for the bus, if
the channel that has it waits, or if its request is refused. -/
def cycle? (s : System) : Option BusCycle :=
  match s.dma.select with
  | none => none
  | some i => (s.channel i).cycle? i s.memory s.gpu

/-- The bus cycles of a schedule. -/
def log (s : System) : List Move → List BusCycle
  | [] => []
  | .dma :: moves => s.cycle?.toList ++ (s.move .dma).log moves
  | move :: moves => (s.move move).log moves

variable (s : System)

theorem run_append (moves more : List Move) : s.run (moves ++ more) = (s.run moves).run more := by
  induction moves generalizing s with
  | nil => rfl
  | cons move moves ih => exact ih (s.move move)

/-- The bus cycle of a move, if it makes one. -/
def cycleOf (s : System) (move : Move) : Option BusCycle := if move.isDma then s.cycle? else none

variable {s} in
theorem cycle?_of_mem {move : Move} {e : BusCycle} (h : e ∈ (s.cycleOf move).toList) :
    s.cycle? = some e := by
  unfold cycleOf at h
  split at h
  · exact Option.mem_toList.1 h
  · cases h

theorem log_cons (move : Move) (moves : List Move) :
    s.log (move :: moves) = (s.cycleOf move).toList ++ (s.move move).log moves := by
  cases move <;> rfl

theorem log_append (moves more : List Move) :
    s.log (moves ++ more) = s.log moves ++ (s.run moves).log more := by
  induction moves generalizing s with
  | nil => rfl
  | cons move moves ih =>
    rw [List.cons_append, log_cons, log_cons, ih, List.append_assoc]
    rfl

end System

/-! ## A step of the controller -/

section Controller

variable (dma : Dma) (i : ChannelIndex) (memory : Memory) (gpu : Gpu)

/-- A channel that is replaced is there, and the others are what they were. -/
theorem channel_setChannel (j : ChannelIndex) (c : Channel) :
    (dma.setChannel i c).channel j = if i = j then c else dma.channel j := by
  by_cases h : i = j
  · subst h
    rw [if_pos rfl]
    exact Table.entry_put_self _ _ _
  · rw [if_neg h]
    exact Table.entry_put_of_ne _ _ h

theorem channel_complete (j : ChannelIndex) :
    (dma.complete i).channel j = if i = j then (dma.channel i).finish else dma.channel j :=
  channel_setChannel dma i j _

/-- Only the channel that is recorded changes. -/
theorem channel_record (j : ChannelIndex) (progress : Progress) (c : Channel) :
    (dma.record i progress c).channel j =
      if i = j then Channel.settle (progress, c) else dma.channel j := by
  cases progress with
  | complete =>
    show ((dma.setChannel i c).complete i).channel j = _
    rw [channel_complete, channel_setChannel, channel_setChannel, if_pos rfl]
    by_cases h : i = j
    · rw [if_pos h, if_pos h]
      rfl
    · rw [if_neg h, if_neg h, if_neg h]
  | busy => exact channel_setChannel dma i j c
  | waiting => exact channel_setChannel dma i j c

theorem dpcr_record (progress : Progress) (c : Channel) :
    (dma.record i progress c).dpcr = dma.dpcr := by
  cases progress <;> rfl

theorem channel_runChannel (j : ChannelIndex) :
    (dma.runChannel i memory gpu).1.channel j =
      if i = j then (dma.channel i).stepped i memory gpu else dma.channel j := by
  unfold runChannel Channel.stepped
  cases started? (dma.channel i) i with
  | none => exact channel_complete dma i j
  | some c =>
    simp only [c.advance_eq i, channel_record]
    cases c.waits gpu <;> rfl

theorem dpcr_runChannel : (dma.runChannel i memory gpu).1.dpcr = dma.dpcr := by
  unfold runChannel
  cases started? (dma.channel i) i with
  | none => rfl
  | some c => exact dpcr_record dma i _ _

theorem transact_runChannel :
    (dma.runChannel i memory gpu).2 =
      transact ((dma.channel i).cycle? i memory gpu) memory gpu := by
  unfold runChannel Channel.cycle?
  cases started? (dma.channel i) i with
  | none => rfl
  | some c => simp only [c.advance_eq i]

end Controller

namespace System

variable (s : System)

/-- The channel that has the bus makes its step, and the others stay as they are. -/
theorem channel_move_dma (j : ChannelIndex) :
    (s.move .dma).channel j =
      if s.dma.select = some j then (s.channel j).stepped j s.memory s.gpu else s.channel j := by
  have hselect : Dma.select { s.dma with accessing := false } = s.dma.select := rfl
  unfold move Dma.step
  simp only [hselect]
  cases h : s.dma.select with
  | none => rfl
  | some i =>
    refine (channel_runChannel { s.dma with accessing := false } i s.memory s.gpu j).trans ?_
    by_cases hij : i = j
    · subst hij
      rw [if_pos rfl, if_pos rfl]
      rfl
    · rw [if_neg hij, if_neg fun heq => hij (Option.some.inj heq)]
      rfl

theorem dpcr_move_dma : (s.move .dma).dma.dpcr = s.dma.dpcr := by
  have hselect : Dma.select { s.dma with accessing := false } = s.dma.select := rfl
  unfold move Dma.step
  simp only [hselect]
  cases s.dma.select with
  | none => rfl
  | some i => exact dpcr_runChannel { s.dma with accessing := false } i s.memory s.gpu

/-- **Memory and GPU** feel the bus cycle of a step, and nothing else. -/
theorem transact_move_dma :
    ((s.move .dma).memory, (s.move .dma).gpu) = transact s.cycle? s.memory s.gpu := by
  have hselect : Dma.select { s.dma with accessing := false } = s.dma.select := rfl
  unfold move Dma.step cycle?
  simp only [hselect]
  cases h : s.dma.select with
  | none => rfl
  | some i => exact transact_runChannel { s.dma with accessing := false } i s.memory s.gpu

theorem memory_move_dma :
    (s.move .dma).memory = (s.cycle?.map (·.store s.memory)).getD s.memory := by
  have h := congrArg Prod.fst s.transact_move_dma
  cases hcycle : s.cycle? <;> rw [hcycle] at h <;> exact h

theorem gpu_move_dma : (s.move .dma).gpu = (s.cycle?.map (·.deliver s.gpu)).getD s.gpu := by
  have h := congrArg Prod.snd s.transact_move_dma
  cases hcycle : s.cycle? <;> rw [hcycle] at h <;> exact h

variable {s} in
/-- A step with a bus cycle. -/
theorem move_of_cycle {e : BusCycle} (h : s.cycle? = some e) :
    (s.move .dma).memory = e.store s.memory ∧ (s.move .dma).gpu = e.deliver s.gpu := by
  rw [memory_move_dma, gpu_move_dma, h]
  exact ⟨rfl, rfl⟩

variable {s} in
/-- A step without one. -/
theorem move_of_idle (h : s.cycle? = none) :
    (s.move .dma).memory = s.memory ∧ (s.move .dma).gpu = s.gpu := by
  rw [memory_move_dma, gpu_move_dma, h]
  exact ⟨rfl, rfl⟩

/-- A step leaves the GPU alone, unless its access has to do with it. -/
theorem gpu_move_of_silent (h : ∀ e, s.cycle? = some e → e.access.isSilent = true) :
    (s.move .dma).gpu = s.gpu := by
  cases hcycle : s.cycle? with
  | none => exact (move_of_idle hcycle).2
  | some e =>
    have hsilent := h e hcycle
    rw [(move_of_cycle hcycle).2]
    unfold BusCycle.deliver
    cases haccess : e.access with
    | header address => rfl
    | entry address value => rfl
    | _ =>
      rw [haccess] at hsilent
      cases hsilent

/-- **What a step of the controller can do.**  The bus is free; or the channel that has it is
refused, or waits, or makes its access. -/
theorem step_cases :
    (s.dma.select = none ∧ s.cycle? = none) ∨
    ∃ i, s.dma.select = some i ∧
      ((started? (s.channel i) i = none ∧ s.cycle? = none ∧
          (s.move .dma).channel i = (s.channel i).finish) ∨
        ∃ c, started? (s.channel i) i = some c ∧
          ((c.waits s.gpu = true ∧ s.cycle? = none ∧ (s.move .dma).channel i = c) ∨
            (c.waits s.gpu = false ∧
              s.cycle? = c.access?.map (fun a => ⟨i, a, a.word s.memory s.gpu⟩) ∧
              (s.move .dma).channel i = c.serve s.memory))) := by
  cases hselect : s.dma.select with
  | none =>
    refine .inl ⟨rfl, ?_⟩
    rw [cycle?, hselect]
  | some i =>
    refine .inr ⟨i, rfl, ?_⟩
    have hcycle : s.cycle? = (s.channel i).cycle? i s.memory s.gpu := by
      rw [cycle?, hselect]
    rw [hcycle, channel_move_dma, if_pos hselect]
    cases hstarted : started? (s.channel i) i with
    | none => exact .inl ⟨rfl, Channel.step_of_refused hstarted⟩
    | some c =>
      refine .inr ⟨c, rfl, ?_⟩
      cases hwaits : c.waits s.gpu with
      | true => exact .inl ⟨rfl, Channel.step_of_waits hstarted hwaits⟩
      | false => exact .inr ⟨rfl, Channel.step_of_ready hstarted hwaits⟩

/-! ## What a log leaves behind -/

variable {s} in
/-- A bus cycle is the access of the channel that has the bus. -/
theorem access_of_cycle? {e : BusCycle} (h : s.cycle? = some e) :
    ∃ c, s.dma.select = some e.channel ∧ started? (s.channel e.channel) e.channel = some c ∧
      c.access? = some e.access ∧ e.word = e.access.word s.memory s.gpu ∧
      (s.move .dma).channel e.channel = c.serve s.memory := by
  rcases s.step_cases with ⟨-, hnone⟩ | ⟨i, hselect, ⟨-, hnone, -⟩ | ⟨c, hstarted, hstep⟩⟩
  · rw [hnone] at h
    cases h
  · rw [hnone] at h
    cases h
  · rcases hstep with ⟨-, hnone, -⟩ | ⟨-, hsome, hserved⟩
    · rw [hnone] at h
      cases h
    · rw [hsome] at h
      obtain ⟨a, haccess, rfl⟩ := Option.map_eq_some_iff.1 h
      exact ⟨c, hselect, hstarted, haccess, rfl, hserved⟩

variable {s} in
theorem of_cycle? {e : BusCycle} (h : s.cycle? = some e) :
    s.dma.select = some e.channel ∧ e.word = e.access.word s.memory s.gpu := by
  obtain ⟨c, hselect, -, -, hword, -⟩ := access_of_cycle? h
  exact ⟨hselect, hword⟩

/-- Every word on the bus is the one that its access moves. -/
theorem word_of_mem_log (moves : List Move) : ∀ (s : System) {e : BusCycle}, e ∈ s.log moves →
    ∃ memory gpu, e.word = e.access.word memory gpu := by
  induction moves with
  | nil => exact fun s e he => absurd he List.not_mem_nil
  | cons move moves ih =>
    intro s e he
    rw [log_cons, List.mem_append] at he
    rcases he with hnow | hlater
    · exact ⟨s.memory, s.gpu, (of_cycle? (cycle?_of_mem hnow)).2⟩
    · exact ih (s.move move) hlater

end System

/-- The memory behind a log. -/
def stored (log : List BusCycle) (memory : Memory) : Memory :=
  log.foldl (fun memory e => e.store memory) memory

/-- **Memory** feels the accesses of a schedule, and nothing else. -/
theorem System.memory_run (moves : List Move) : ∀ s : System,
    (s.run moves).memory = stored (s.log moves) s.memory := by
  induction moves with
  | nil => exact fun s => rfl
  | cons move moves ih =>
    intro s
    have hmove : (s.move move).memory = stored (s.cycleOf move).toList s.memory := by
      cases move with
      | dma =>
        rw [memory_move_dma]
        show _ = stored s.cycle?.toList s.memory
        cases s.cycle? <;> rfl
      | gpu operation => rfl
      | dpcr value => rfl
    rw [log_cons, stored, List.foldl_append]
    show ((s.move move).run moves).memory = stored _ (stored _ _)
    rw [ih, hmove]

section Stored

variable {log : List BusCycle} {memory : Memory}

/-- Reads leave the memory alone. -/
theorem stored_of_reads (h : ∀ e ∈ log, e.access.stores = false) : stored log memory = memory := by
  induction log with
  | nil => rfl
  | cons e log ih =>
    rw [List.forall_mem_cons] at h
    have hsame : e.store memory = memory := by
      rw [BusCycle.store, h.1]
      rfl
    show stored log (e.store memory) = memory
    rw [hsame]
    exact ih h.2

/-- A word that nothing is stored to is what it was. -/
theorem ramWord_stored_of_ne {address : UInt32}
    (h : ∀ e ∈ log, e.access.stores = true →
      Memory.wordOffset e.access.address ≠ Memory.wordOffset address) :
    (stored log memory).ramWord address = memory.ramWord address := by
  induction log generalizing memory with
  | nil => rfl
  | cons e log ih =>
    rw [List.forall_mem_cons] at h
    show (stored log (e.store memory)).ramWord address = _
    rw [ih h.2]
    exact e.ramWord_store h.1

/-- A word that is stored stays, if nothing is stored over it. -/
theorem ramWord_stored {e : BusCycle} (he : e ∈ log) (hstores : e.access.stores = true)
    (hapart : log.Pairwise fun e f => Memory.wordOffset f.access.address ≠
      Memory.wordOffset e.access.address) :
    (stored log memory).ramWord e.access.address = e.word := by
  induction log generalizing memory with
  | nil => cases he
  | cons f log ih =>
    rw [List.pairwise_cons] at hapart
    show (stored log (f.store memory)).ramWord e.access.address = e.word
    rcases List.mem_cons.1 he with rfl | hlater
    · rw [ramWord_stored_of_ne fun f hf _ => hapart.1 f hf, BusCycle.store, if_pos hstores]
      exact memory.ramWord_setRamWord_self e.access.address e.word
    · exact ih hlater hapart.2

end Stored

end PlayStation.Dma

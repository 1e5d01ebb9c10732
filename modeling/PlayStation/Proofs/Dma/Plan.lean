/-
  What a transfer is going to do: its PLAN.

  Left alone beside a GPU that is always ready, a channel that is busy makes one access after the
  other and is free in the end (`Plan`).  Which accesses these are depends on the channel and on
  the headers in RAM, but not on the GPU, nor on other channels.

  1. **A step** either leaves the plan of a channel as it is, because the channel waits or another
     one has the bus, or does the first thing on it (`Timetable.Kept.move`).

  2. **A schedule** so does a first part of every plan, whatever its order of events, as long as no
     transfer stores where another one reads (`Timetable.Kept.run`).  That is the one induction
     over schedules; what single transfers do, and that two of them do not disturb each other,
     are cases of it.
-/
import PlayStation.Proofs.Dma.Places
import PlayStation.Proofs.Dma.Reachable

namespace PlayStation.Dma

open Memory (wordOffset)

/-! ## Busy channels -/

namespace Channel

variable {c d : Channel} {i : ChannelIndex}

theorem busy_start (c : Channel) (transfer : Transfer) : (c.start transfer).busy = c.busy :=
  (Word.bit_withBit c.chcr false (by decide) (by decide)).trans (if_neg (by decide))

theorem busy_finish (c : Channel) : c.finish.busy = false := by
  show Word.bit (c.chcr &&& ~~~startBits) 24 = false
  rw [Word.bit_and, show Word.bit (~~~startBits) 24 = false from by decide, Bool.and_false]

theorem trigger_finish (c : Channel) : c.finish.trigger = false := by
  show Word.bit (c.chcr &&& ~~~startBits) 28 = false
  rw [Word.bit_and, show Word.bit (~~~startBits) 28 = false from by decide, Bool.and_false]

theorem busy_started (h : started? c i = some d) : d.busy = c.busy := by
  rcases started?_eq_some h with ⟨-, rfl⟩ | ⟨-, transfer, -, rfl⟩
  · rfl
  · exact c.busy_start transfer

theorem busy_of_serve {memory : Memory} (h : (c.serve memory).busy = true) : c.busy = true := by
  obtain ⟨madr, transfer, hpass⟩ := c.pass_eq memory
  have hsame : (c.pass memory).2.busy = c.busy := by
    rw [hpass]
    rfl
  rw [← hsame]
  rcases c.serve_cases memory with hserve | hserve <;> rw [hserve] at h
  · exact h
  · rw [busy_finish] at h
    cases h

/-- No step makes a channel busy. -/
theorem busy_of_stepped {memory : Memory} {gpu : Gpu}
    (h : (c.stepped i memory gpu).busy = true) : c.busy = true := by
  cases hstarted : started? c i with
  | none =>
    rw [(step_of_refused hstarted).2, busy_finish] at h
    cases h
  | some d =>
    rw [← busy_started hstarted]
    cases hwaits : d.waits gpu with
    | true =>
      rw [(step_of_waits hstarted hwaits).2] at h
      exact h
    | false =>
      rw [(step_of_ready hstarted hwaits).2] at h
      exact busy_of_serve h

/-- What is under way goes on. -/
theorem started?_of_transfer {transfer : Transfer} (h : c.transfer = some transfer) :
    started? c i = some c := by
  rw [started?, inFlight, h]
  rfl

/-- What is under way is not started again. -/
theorem started?_of_started (h : started? c i = some d) : started? d i = some d := by
  have hflight : d.inFlight = true := by
    rcases started?_eq_some h with ⟨hflight, rfl⟩ | ⟨-, transfer, -, rfl⟩
    · exact hflight
    · rfl
  rw [started?, hflight]
  rfl

/-- What a channel does with an access depends on no more of the memory than the header it reads. -/
theorem serve_congr {memory other : Memory}
    (h : ∀ address, c.access? = some (.header address) →
      memory.ramWord address = other.ramWord address) : c.serve memory = c.serve other := by
  rw [serve, serve, pass, pass]
  cases htransfer : c.transfer with
  | none => rfl
  | some transfer =>
    cases transfer with
    | block b => rfl
    | list address phase =>
      cases phase with
      | header =>
        have haccess : c.access? = some (.header address) := by
          rw [access?, htransfer]
        simp only [h address haccess]
      | payload remaining next => rfl

/-- The channel refuses whatever it is asked for: its device moves no words. -/
structure Refuses (c : Channel) : Prop where
  idle : c.transfer = none
  device : c.device ≠ .gpu ∧ c.device ≠ .otc

theorem Refuses.started? (h : c.Refuses) : started? c i = none := by
  have hflight : c.inFlight = false := by
    rw [inFlight, h.idle]
    rfl
  rw [Dma.started?, hflight]
  cases hlatch : c.latch i with
  | error fault => rfl
  | ok transfer =>
    rcases device_of_latch hlatch with hgpu | hotc
    · exact absurd hgpu h.device.1
    · exact absurd hotc h.device.2

end Channel

/-! ## Plans -/

/-- `Plan m i c as d`: beside memory `m` and a GPU that is always ready, channel `i` in state `c`
makes the accesses `as` and ends as `d`. -/
inductive Plan (m : Memory) (i : ChannelIndex) : Channel → List Access → Channel → Prop
  | idle {c : Channel} (hbusy : c.busy = false) : Plan m i c [] c
  | access {c c' d : Channel} {a : Access} {as : List Access} (hbusy : c.busy = true)
      (hstarted : started? c i = some c') (haccess : c'.access? = some a)
      (hrest : Plan m i (c'.serve m) as d) : Plan m i c (a :: as) d

namespace Plan

variable {m : Memory} {i : ChannelIndex} {c d : Channel} {as : List Access}

/-- A channel is busy while there is something on its plan. -/
theorem busy_eq (h : Plan m i c as d) : c.busy = !as.isEmpty := by
  cases h with
  | idle hbusy => exact hbusy
  | access hbusy _ _ _ => exact hbusy

/-- A channel with nothing on its plan is as it ends. -/
theorem eq_of_nil (h : Plan m i c [] d) : c = d := by
  cases h
  rfl

/-- The plan of a busy channel begins with the access that the channel makes next. -/
theorem next (h : Plan m i c as d) (hbusy : c.busy = true) :
    ∃ c' a rest, started? c i = some c' ∧ c'.access? = some a ∧ as = a :: rest ∧
      Plan m i (c'.serve m) rest d := by
  cases h with
  | idle hidle =>
    rw [hbusy] at hidle
    cases hidle
  | access _ hstarted haccess hrest => exact ⟨_, _, _, hstarted, haccess, rfl, hrest⟩

/-- To begin does not change the plan. -/
theorem of_started {c' : Channel} (h : Plan m i c as d) (hstarted : started? c i = some c')
    (hbusy : c.busy = true) : Plan m i c' as d := by
  obtain ⟨c'', a, rest, hbegun, haccess, rfl, hrest⟩ := h.next hbusy
  have hsame : c'' = c' := Option.some.inj (hbegun.symm.trans hstarted)
  subst hsame
  exact .access ((Channel.busy_started hstarted).trans hbusy)
    (Channel.started?_of_started hstarted) haccess hrest

/-- A channel that is going to begin has the plan that it has when it has begun. -/
theorem of_begun {c' : Channel} (hstarted : started? c i = some c') (hbusy : c.busy = true)
    (h : Plan m i c' as d) : Plan m i c as d := by
  obtain ⟨c'', a, rest, hagain, haccess, rfl, hrest⟩ :=
    h.next ((Channel.busy_started hstarted).trans hbusy)
  have hsame : c' = c'' :=
    Option.some.inj ((Channel.started?_of_started hstarted).symm.trans hagain)
  subst hsame
  exact .access hbusy hstarted haccess hrest

end Plan

/-! ## Channels that move nothing -/

namespace System

variable {s : System} {i : ChannelIndex}

/-- A channel that has the bus asked for it, and may have it. -/
theorem enabled_and_busy (h : s.dma.select = some i) :
    s.dma.dpcr.enabled i = true ∧ (s.channel i).busy = true :=
  Bool.and_eq_true _ _ ▸ eligible_of_select h

theorem channel_move_of_not_dma {move : Move} (h : move.isDma = false) (i : ChannelIndex) :
    (s.move move).channel i = s.channel i := by
  cases move with
  | dma => cases h
  | gpu operation => rfl
  | dpcr value => rfl

theorem memory_move_of_not_dma {move : Move} (h : move.isDma = false) :
    (s.move move).memory = s.memory := by
  cases move with
  | dma => cases h
  | gpu operation => rfl
  | dpcr value => rfl

/-- Without a write to the control register, no channel becomes eligible. -/
theorem eligible_of_move {move : Move} (hmove : move.keepsDpcr = true)
    (h : (s.move move).dma.eligible i = true) : s.dma.eligible i = true := by
  cases move with
  | dma =>
    have hboth : (s.move .dma).dma.dpcr.enabled i = true ∧ ((s.move .dma).channel i).busy = true :=
      Bool.and_eq_true _ _ ▸ h
    rw [dpcr_move_dma, channel_move_dma] at hboth
    have hbusy : (s.channel i).busy = true := by
      have hafter := hboth.2
      split at hafter
      · exact Channel.busy_of_stepped hafter
      · exact hafter
    show (_ && _) = true
    rw [hboth.1]
    exact hbusy
  | gpu operation => exact h
  | dpcr value => cases hmove

/-- A channel moves nothing in a schedule: it refuses, or it is not eligible and does not become
so. -/
def Silent (s : System) (moves : List Move) (i : ChannelIndex) : Prop :=
  (s.channel i).Refuses ∨
    (s.dma.eligible i = false ∧ ∀ move ∈ moves, move.keepsDpcr = true)

/-- A channel that refuses goes on to do so. -/
theorem refuses_move (h : (s.channel i).Refuses) (move : Move) :
    ((s.move move).channel i).Refuses := by
  cases move with
  | dma =>
    rw [channel_move_dma]
    split
    · rw [(Channel.step_of_refused h.started?).2]
      exact ⟨rfl, h.device⟩
    · exact h
  | gpu operation => exact h
  | dpcr value => exact h

theorem Silent.move {move : Move} {moves : List Move} (h : s.Silent (move :: moves) i) :
    (s.move move).Silent moves i := by
  rcases h with hrefuses | ⟨hineligible, hmoves⟩
  · exact .inl (refuses_move hrefuses move)
  · rw [List.forall_mem_cons] at hmoves
    refine .inr ⟨?_, hmoves.2⟩
    cases hafter : (s.move move).dma.eligible i with
    | false => rfl
    | true =>
      have hbefore := eligible_of_move hmoves.1 hafter
      rw [hineligible] at hbefore
      cases hbefore

/-- It is not started when it has the bus. -/
theorem Silent.started? {moves : List Move} (h : s.Silent moves i)
    (hselect : s.dma.select = some i) : started? (s.channel i) i = none := by
  rcases h with hrefuses | ⟨hineligible, -⟩
  · exact hrefuses.started?
  · rw [eligible_of_select hselect] at hineligible
    cases hineligible

end System

/-! ## Timetables -/

/-- The accesses of one channel in a log. -/
def accesses (i : ChannelIndex) (log : List BusCycle) : List Access :=
  (log.filter (·.channel = i)).map (·.access)

theorem accesses_append (i : ChannelIndex) (log more : List BusCycle) :
    accesses i (log ++ more) = accesses i log ++ accesses i more := by
  rw [accesses, List.filter_append, List.map_append]
  rfl

theorem accesses_singleton (i : ChannelIndex) (e : BusCycle) :
    accesses i [e] = if e.channel = i then [e.access] else [] := by
  unfold accesses
  by_cases h : e.channel = i <;> simp [h]

/-- Plans for some of the channels, none of which stores a word that another one reads. -/
structure Timetable where
  memory : Memory
  /-- The channels that have plans. -/
  planned : ChannelIndex → Prop
  plan : ChannelIndex → List Access
  /-- What the channels end as. -/
  final : ChannelIndex → Channel
  apart : ∀ i j, planned i → planned j → ∀ a ∈ plan i, ∀ b ∈ plan j,
    a.stores = true → b.stores = false → wordOffset a.address ≠ wordOffset b.address

namespace Timetable

/-- The system is where a log of the timetable has led it. -/
structure Kept (t : Timetable) (s : System) (log : List BusCycle) : Prop where
  /-- The log did the first part of every plan, and the rest is still to be done. -/
  plans : ∀ i, t.planned i → ∃ rest, t.plan i = accesses i log ++ rest ∧
    Plan t.memory i (s.channel i) rest (t.final i)
  /-- What the plans read is still there. -/
  memory : ∀ i, t.planned i → ∀ b ∈ t.plan i, b.stores = false →
    s.memory.ramWord b.address = t.memory.ramWord b.address
  /-- Only channels with plans moved words, and the words they read are those of the start. -/
  words : ∀ e ∈ log, t.planned e.channel ∧
    (e.access.stores = false → e.word = t.memory.ramWord e.access.address)

variable {t : Timetable} {s : System} {log : List BusCycle}

/-- At the start, nothing is done yet. -/
theorem kept_start (hplan : ∀ i, t.planned i → Plan t.memory i (s.channel i) (t.plan i) (t.final i))
    (hmemory : s.memory = t.memory) : t.Kept s [] where
  plans i hi := ⟨t.plan i, rfl, hplan i hi⟩
  memory _ _ _ _ _ := hmemory ▸ rfl
  words _ h := absurd h List.not_mem_nil

/-- Where nothing of the timetable is touched, it is kept. -/
theorem Kept.of_same (h : t.Kept s log) {u : System}
    (hchannel : ∀ i, t.planned i → u.channel i = s.channel i) (hmemory : u.memory = s.memory) :
    t.Kept u log where
  plans i hi := (hchannel i hi).symm ▸ h.plans i hi
  memory := hmemory.symm ▸ h.memory
  words := h.words

/-- A step that makes no access keeps a timetable: it begins a transfer at most. -/
theorem Kept.of_begun (h : t.Kept s log) {u : System} {i : ChannelIndex} {c : Channel}
    (hstarted : started? (s.channel i) i = some c) (hbusy : (s.channel i).busy = true)
    (hown : u.channel i = c) (hothers : ∀ j, i ≠ j → u.channel j = s.channel j)
    (hmemory : u.memory = s.memory) : t.Kept u log where
  plans j hj := by
    obtain ⟨rest, hsplit, hplan⟩ := h.plans j hj
    refine ⟨rest, hsplit, ?_⟩
    by_cases hij : i = j
    · subst hij
      rw [hown]
      exact hplan.of_started hstarted hbusy
    · rw [hothers j hij]
      exact hplan
  memory := hmemory.symm ▸ h.memory
  words := h.words

/-- An access that is the first on its plan keeps a timetable. -/
theorem Kept.of_access (h : t.Kept s log) {u : System} {i : ChannelIndex} {c : Channel}
    {a : Access} (hi : t.planned i) (hstarted : started? (s.channel i) i = some c)
    (hbusy : (s.channel i).busy = true) (haccess : c.access? = some a)
    (hown : u.channel i = c.serve s.memory) (hothers : ∀ j, i ≠ j → u.channel j = s.channel j)
    (hmemory : u.memory = (BusCycle.mk i a (a.word s.memory s.gpu)).store s.memory) :
    t.Kept u (log ++ [⟨i, a, a.word s.memory s.gpu⟩]) := by
  -- the plan of the channel begins with this access
  obtain ⟨rest, hsplit, hserved⟩ : ∃ rest, t.plan i = accesses i log ++ a :: rest ∧
      Plan t.memory i (c.serve t.memory) rest (t.final i) := by
    obtain ⟨rest, hsplit, hplan⟩ := h.plans i hi
    obtain ⟨c', a', rest', hbegun, hfirst, rfl, hserved⟩ := hplan.next hbusy
    obtain rfl : c' = c := Option.some.inj (hbegun.symm.trans hstarted)
    obtain rfl : a' = a := Option.some.inj (hfirst.symm.trans haccess)
    exact ⟨rest', hsplit, hserved⟩
  have ha : a ∈ t.plan i := by
    rw [hsplit]
    exact List.mem_append_right _ List.mem_cons_self
  -- if it reads a header, the header is what it was when the plan was made
  have hserve : c.serve s.memory = c.serve t.memory := by
    apply Channel.serve_congr
    intro address hheader
    have hsame : a = .header address := Option.some.inj (haccess.symm.trans hheader)
    subst hsame
    exact h.memory i hi (.header address) ha rfl
  refine ⟨fun j hj => ?_, fun j hj b hb hreads => ?_, fun e he => ?_⟩
  · rw [accesses_append, accesses_singleton]
    by_cases hij : i = j
    · subst hij
      rw [if_pos rfl, hown, hserve]
      refine ⟨rest, ?_, hserved⟩
      rw [hsplit, List.append_assoc]
      rfl
    · rw [if_neg hij, List.append_nil, hothers j hij]
      exact h.plans j hj
  · let e : BusCycle := ⟨i, a, a.word s.memory s.gpu⟩
    have hsame : (e.store s.memory).ramWord b.address = s.memory.ramWord b.address :=
      e.ramWord_store fun hstores => t.apart i j hi hj a ha b hb hstores hreads
    rw [hmemory]
    exact hsame.trans (h.memory j hj b hb hreads)
  · rcases List.mem_append.1 he with hold | hnew
    · exact h.words e hold
    · rw [List.mem_singleton.1 hnew]
      refine ⟨hi, fun hreads => ?_⟩
      rw [← h.memory i hi a ha hreads]
      exact Access.word_of_reads hreads

/-- **A move keeps a timetable.** -/
theorem Kept.move (h : t.Kept s log) {move : Move} {moves : List Move}
    (hsilent : ∀ i, ¬t.planned i → s.Silent (move :: moves) i) :
    t.Kept (s.move move) (log ++ (s.cycleOf move).toList) := by
  cases hdma : move.isDma with
  | false =>
    rw [System.cycleOf, hdma]
    show t.Kept _ (log ++ [])
    rw [List.append_nil]
    exact h.of_same (fun i _ => System.channel_move_of_not_dma hdma i)
      (System.memory_move_of_not_dma hdma)
  | true =>
    obtain rfl : move = .dma := by
      cases move with
      | dma => rfl
      | _ => cases hdma
    show t.Kept _ (log ++ s.cycle?.toList)
    have hmemory := s.memory_move_dma
    have hothers : ∀ i, s.dma.select = some i → ∀ j, i ≠ j →
        (s.move .dma).channel j = s.channel j := by
      intro i hselect j hij
      rw [System.channel_move_dma, if_neg]
      rw [hselect]
      exact fun heq => hij (Option.some.inj heq)
    rcases s.step_cases with ⟨hfree, hcycle⟩ | ⟨i, hselect, hrest⟩
    · -- nobody asks for the bus
      rw [hcycle] at hmemory ⊢
      rw [Option.toList_none, List.append_nil]
      refine h.of_same (fun i _ => ?_) hmemory
      rw [System.channel_move_dma, hfree]
      exact if_neg nofun
    · have hbusy := (System.enabled_and_busy hselect).2
      rcases hrest with ⟨hrefused, hcycle, -⟩ | ⟨c, hstarted, ⟨-, hcycle, hown⟩ | ⟨-, hcycle, hown⟩⟩
      · -- a channel with a plan is not refused
        rw [hcycle] at hmemory ⊢
        rw [Option.toList_none, List.append_nil]
        refine h.of_same (fun j hj => hothers i hselect j ?_) hmemory
        rintro rfl
        obtain ⟨rest, -, hplan⟩ := h.plans i hj
        obtain ⟨c, a, rest, hbegun, -⟩ := hplan.next hbusy
        rw [hrefused] at hbegun
        cases hbegun
      · rw [hcycle] at hmemory ⊢
        rw [Option.toList_none, List.append_nil]
        exact h.of_begun hstarted hbusy hown (hothers i hselect) hmemory
      · -- the channel that has the bus has a plan, since others are not started
        by_cases hi : t.planned i
        · obtain ⟨rest, -, hplan⟩ := h.plans i hi
          obtain ⟨c', a, rest, hbegun, haccess, -⟩ := hplan.next hbusy
          obtain rfl : c' = c := Option.some.inj (hbegun.symm.trans hstarted)
          rw [haccess, Option.map_some] at hcycle
          rw [hcycle] at hmemory ⊢
          exact h.of_access hi hstarted hbusy haccess hown (hothers i hselect) hmemory
        · rw [(hsilent i hi).started? hselect] at hstarted
          cases hstarted

/-- **A schedule keeps a timetable**, whatever its order of events. -/
theorem Kept.run (moves : List Move) : ∀ {s : System} {log : List BusCycle}, t.Kept s log →
    (∀ i, ¬t.planned i → s.Silent moves i) → t.Kept (s.run moves) (log ++ s.log moves) := by
  induction moves with
  | nil =>
    intro s log h _
    show t.Kept s (log ++ [])
    rw [List.append_nil]
    exact h
  | cons move moves ih =>
    intro s log h hsilent
    rw [System.log_cons, ← List.append_assoc]
    exact ih (h.move hsilent) fun i hi => (hsilent i hi).move

end Timetable

end PlayStation.Dma

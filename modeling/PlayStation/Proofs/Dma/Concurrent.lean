/-
  TWO TRANSFERS at once.

  The ordering-table channel makes a table while the GPU channel reads from RAM.  As long as no
  word that is read is one of the table, it does not matter in what order the two get the bus, how
  long either is held off, or when the GPU is ready (`run_concurrent`).

  1. **The outcome** is written down in the plans of the two channels: when both are done, each has
     made the accesses on its plan and no others, in their order (`Timetable.Kept.finished`).  So
     all schedules in which both get done have one outcome (`Timetable.Joint.outcome`).

  2. **In turn**, each channel gets done on its own.  The ordering-table channel never waits
     (`table_phase`).  The GPU channel takes its steps among those of the GPU just as it did beside
     the other (`share`): channel and GPU are in the same states as there (`Alike.run`).
-/
import PlayStation.Proofs.Dma.OrderingTable

namespace PlayStation.Dma

open Memory (wordOffset)

/-! ## What is read -/

/-- The words that a transfer from RAM to the GPU reads. -/
inductive Reads (m : Memory) (c : Channel) : List UInt32 → Prop
  | blocks (hmode : c.syncMode = .manual ∨ c.syncMode = .request) :
      Reads m c ((List.range c.words).map c.wordPlace)
  | packets {packets : List UInt32} (hmode : c.syncMode = .linkedList)
      (hpackets : PacketList m (c.madr &&& ramWordMask) packets) :
      Reads m c ((listAccesses m packets).map (·.address))

/-- Its plan is to read them. -/
theorem Reads.plan {m : Memory} {c : Channel} {i : ChannelIndex} {words : List UInt32}
    (h : Reads m c words) (hfresh : c.Fresh) (hdevice : c.device = .gpu)
    (hdirection : c.direction = .fromRam) :
    ∃ as d, Plan m i c as d ∧ (∀ a ∈ as, a.stores = false) ∧ as.map (·.address) = words := by
  cases h with
  | blocks hmode =>
    refine ⟨_, _, Channel.plan_gpu hfresh hdevice hmode, fun a ha => ?_, ?_⟩
    · obtain ⟨k, -, rfl⟩ := List.mem_map.1 ha
      rw [c.gpuAccess_stores, hdirection]
      rfl
    · rw [List.map_map]
      exact List.map_congr_left fun k _ => c.gpuAccess_address _
  | packets hmode hpackets =>
    exact ⟨_, _, Channel.plan_of_list hfresh hdevice hmode hdirection hpackets,
      fun a ha => stores_of_mem_listAccesses ha, rfl⟩

/-- A table and a transfer from RAM are to begin, and no word of the table is one that is read. -/
structure Pair (s : System) (words : List UInt32) : Prop where
  reachable : Reachable s.dma
  table : (s.channel 6).Fresh
  fresh : (s.channel 2).Fresh
  direction : (s.channel 2).direction = .fromRam
  reads : Reads s.memory (s.channel 2) words
  apart : ∀ k < (s.channel 6).blockSize, ∀ address ∈ words,
    wordOffset (place (s.channel 6).madr down k) ≠ wordOffset address

/-- A timetable for the two. -/
structure Timetable.Joint (t : Timetable) (a : UInt32) (n : Nat) : Prop where
  planned : ∀ i, t.planned i ↔ i = 2 ∨ i = 6
  reads : ∀ x ∈ t.plan 2, x.stores = false
  table : t.plan 6 = tableAccesses a n

/-- Channels other than those two move nothing. -/
theorem Channel.Sound.refuses {c : Channel} {i : ChannelIndex} (h : c.Sound i)
    (hother : ¬(i = 2 ∨ i = 6)) : c.Refuses := by
  have hdevices : ∀ i : ChannelIndex, ¬(i = 2 ∨ i = 6) →
      Device.ofChannel i.val ≠ .gpu ∧ Device.ofChannel i.val ≠ .otc := by decide
  have hdevice := hdevices i hother
  rw [← h.device] at hdevice
  refine ⟨?_, hdevice⟩
  cases htransfer : c.transfer with
  | none => rfl
  | some transfer =>
    rcases h.transfer (by rw [htransfer]; exact nofun) with hgpu | hotc
    · exact absurd hgpu hdevice.1
    · exact absurd hotc hdevice.2

/-- A system that keeps to a timetable, with the other channels moving nothing. -/
structure Timetable.Runs (t : Timetable) (s : System) : Prop where
  kept : ∃ log, t.Kept s log
  others : ∀ i, ¬t.planned i → (s.channel i).Refuses

theorem Timetable.Runs.silent {t : Timetable} {s : System} (h : t.Runs s) (moves : List Move)
    (i : ChannelIndex) (hi : ¬t.planned i) : s.Silent moves i := .inl (h.others i hi)

theorem Timetable.Runs.move {t : Timetable} {s : System} (h : t.Runs s) (move : Move) :
    t.Runs (s.move move) := by
  obtain ⟨log, hkept⟩ := h.kept
  exact ⟨⟨_, hkept.move (h.silent [move])⟩,
    fun i hi => System.refuses_move (h.others i hi) move⟩

theorem Timetable.Runs.run {t : Timetable} (moves : List Move) : ∀ {s : System}, t.Runs s →
    t.Runs (s.run moves) := by
  induction moves with
  | nil => exact fun h => h
  | cons move moves ih => exact fun h => ih (h.move move)

/-- **Two transfers have a timetable.** -/
theorem Pair.timetable {s : System} {words : List UInt32} (h : Pair s words) :
    ∃ t : Timetable, t.Joint (s.channel 6).madr (s.channel 6).blockSize ∧ t.memory = s.memory ∧
      t.Kept s [] ∧ t.Runs s := by
  obtain ⟨as, d, hplan, hreads, haddresses⟩ :=
    h.reads.plan (i := 2) h.fresh (h.reachable.sound 2).device h.direction
  have htable := Channel.plan_table (m := s.memory) (h.reachable.sound 6) h.table
    (h.reachable.sound 6).device
  let t : Timetable :=
    { memory := s.memory
      planned := fun i => i = 2 ∨ i = 6
      plan := fun i =>
        if i = 2 then as else tableAccesses (s.channel 6).madr (s.channel 6).blockSize
      final := fun i =>
        if i = 2 then d
        else (s.channel 6).ended (place (s.channel 6).madr down (s.channel 6).blockSize)
      apart := by
        intro i j hi hj a ha b hb hstores hloads
        -- what stores is the table, and what reads is the transfer from RAM
        obtain rfl : i = 6 := by
          rcases hi with rfl | rfl
          · rw [hreads a ha] at hstores
            cases hstores
          · rfl
        obtain rfl : j = 2 := by
          rcases hj with rfl | rfl
          · rfl
          · obtain ⟨k, -, rfl⟩ := of_mem_tableAccesses hb
            cases hloads
        obtain ⟨k, hk, rfl⟩ := of_mem_tableAccesses ha
        refine h.apart k hk b.address ?_
        rw [← haddresses]
        exact List.mem_map_of_mem hb }
  have hkept : t.Kept s [] := by
    refine Timetable.kept_start (fun i hi => ?_) rfl
    rcases hi with rfl | rfl
    · exact hplan
    · exact htable
  exact ⟨t, ⟨fun i => Iff.rfl, hreads, rfl⟩, rfl, hkept, ⟨_, hkept⟩,
    fun i hi => (h.reachable.sound i).refuses hi⟩

/-! ## The outcome -/

/-- The words that a channel queues with the GPU. -/
def System.queuedBy (s : System) (i : ChannelIndex) (moves : List Move) : List UInt32 :=
  pushed ((s.log moves).filter (·.channel = i))

/-- Two schedules come to the same. -/
structure SameOutcome (s : System) (moves others : List Move) : Prop where
  queued : s.queuedBy 2 moves = s.queuedBy 2 others
  memory : (s.run moves).memory = (s.run others).memory
  /-- The registers of the GPU channel. -/
  reader : (s.run moves).channel 2 = (s.run others).channel 2
  /-- The registers of the ordering-table channel. -/
  writer : (s.run moves).channel 6 = (s.run others).channel 6

namespace Timetable

variable {t : Timetable} {s : System} {log : List BusCycle} {i : ChannelIndex}

/-- A channel that is done has made the accesses on its plan. -/
theorem Kept.finished (h : t.Kept s log) (hi : t.planned i) (hover : (s.channel i).busy = false) :
    accesses i log = t.plan i ∧ s.channel i = t.final i := by
  obtain ⟨rest, hsplit, hplan⟩ := h.plans i hi
  have hrest : rest = [] := by
    have hbusy := hplan.busy_eq
    rw [hover] at hbusy
    cases rest with
    | nil => rfl
    | cons a rest => cases hbusy
  subst hrest
  rw [List.append_nil] at hsplit
  exact ⟨hsplit.symm, hplan.eq_of_nil⟩

/-- Every access is on the plan of its channel. -/
theorem Kept.mem_plan (h : t.Kept s log) {e : BusCycle} (he : e ∈ log) :
    t.planned e.channel ∧ e.access ∈ t.plan e.channel := by
  obtain ⟨hi, -⟩ := h.words e he
  obtain ⟨rest, hsplit, -⟩ := h.plans e.channel hi
  refine ⟨hi, ?_⟩
  rw [hsplit]
  refine List.mem_append_left _ (List.mem_map_of_mem (List.mem_filter.2 ⟨he, ?_⟩))
  exact decide_eq_true rfl

end Timetable

/-- The memory behind a store of a table. -/
def Access.put (memory : Memory) : Access → Memory
  | .entry address value => memory.setRamWord address value
  | .header _ | .payload _ | .push _ | .pull _ => memory

/-- Where one channel makes a table and nobody else stores anything, the memory is a matter of
that channel. -/
theorem stored_eq {log : List BusCycle} {i : ChannelIndex}
    (htable : ∀ e ∈ log, e.channel = i → ∃ address value, e.access = .entry address value)
    (hreads : ∀ e ∈ log, e.channel ≠ i → e.access.stores = false)
    (hwords : ∀ e ∈ log, ∃ memory gpu, e.word = e.access.word memory gpu) (m : Memory) :
    stored log m = (accesses i log).foldl Access.put m := by
  induction log generalizing m with
  | nil => rfl
  | cons e log ih =>
    rw [List.forall_mem_cons] at htable hreads hwords
    show stored log (e.store m) = _
    rw [ih htable.2 hreads.2 hwords.2, ← List.singleton_append, accesses_append,
      List.foldl_append]
    congr 1
    rw [BusCycle.store, accesses_singleton]
    by_cases hchannel : e.channel = i
    · obtain ⟨address, value, haccess⟩ := htable.1 hchannel
      obtain ⟨memory, gpu, hword⟩ := hwords.1
      rw [if_pos hchannel, hword, haccess]
      rfl
    · rw [if_neg hchannel, hreads.1 hchannel]
      rfl

/-- **The outcome of two transfers** is a matter of their plans. -/
theorem Timetable.Joint.outcome {t : Timetable} {a : UInt32} {n : Nat} (ht : t.Joint a n)
    {s : System} (hmemory : t.memory = s.memory) (hkept : t.Kept s []) (hruns : t.Runs s)
    (moves : List Move) (hreader : ((s.run moves).channel 2).busy = false)
    (hwriter : ((s.run moves).channel 6).busy = false) :
    s.queuedBy 2 moves = (t.plan 2).filterMap (Access.queued? t.memory) ∧
      (s.run moves).memory = (t.plan 6).foldl Access.put t.memory ∧
      (s.run moves).channel 2 = t.final 2 ∧ (s.run moves).channel 6 = t.final 6 := by
  have hend : t.Kept (s.run moves) (s.log moves) := hkept.run moves (hruns.silent moves)
  obtain ⟨hreads, hfinal⟩ := hend.finished ((ht.planned 2).2 (.inl rfl)) hreader
  obtain ⟨htable, hfinal'⟩ := hend.finished ((ht.planned 6).2 (.inr rfl)) hwriter
  refine ⟨?_, ?_, hfinal, hfinal'⟩
  · have hqueued : s.queuedBy 2 moves =
        (accesses 2 (s.log moves)).filterMap (Access.queued? t.memory) :=
      pushed_eq fun e he => (hend.words e (List.mem_filter.1 he).1).2
    rw [hqueued, hreads]
  · rw [System.memory_run, ← hmemory, ← htable]
    refine stored_eq (fun e he hchannel => ?_) (fun e he hchannel => ?_)
      (fun e he => System.word_of_mem_log moves s he) _
    · obtain ⟨-, hmem⟩ := hend.mem_plan he
      rw [hchannel, ht.table] at hmem
      obtain ⟨k, -, haccess⟩ := of_mem_tableAccesses hmem
      exact ⟨_, _, haccess⟩
    · obtain ⟨hplanned, hmem⟩ := hend.mem_plan he
      have hchannel' : e.channel = 2 := ((ht.planned _).1 hplanned).resolve_right hchannel
      rw [hchannel'] at hmem
      exact ht.reads _ hmem

/-! ## One channel at a time -/

/-- The control word that enables one channel. -/
def only (i : ChannelIndex) : UInt32 := 8 <<< UInt32.ofNat (4 * i.val)

theorem enabled_only : ∀ i j : ChannelIndex, Dpcr.enabled ⟨only i⟩ j = decide (j = i) := by
  decide

namespace System

variable {s : System} {i : ChannelIndex}

theorem of_eligible_only (h : s.dma.dpcr = ⟨only i⟩) {j : ChannelIndex}
    (hj : s.dma.eligible j = true) : j = i := by
  have henabled : s.dma.dpcr.enabled j = true := (Bool.and_eq_true _ _ ▸ hj :
    s.dma.dpcr.enabled j = true ∧ (s.channel j).busy = true).1
  rw [h, enabled_only] at henabled
  exact of_decide_eq_true henabled

/-- The channel that is enabled gets the bus when it asks for it. -/
theorem select_only (h : s.dma.dpcr = ⟨only i⟩) (hbusy : (s.channel i).busy = true) :
    s.dma.select = some i := by
  refine select_of_only ?_ fun j hj => of_eligible_only h hj
  show (s.dma.dpcr.enabled i && (s.channel i).busy) = true
  rw [h, enabled_only, hbusy]
  exact (Bool.and_true _).trans (decide_eq_true rfl)

theorem alone_only (h : s.dma.dpcr = ⟨only i⟩) (hbusy : (s.channel i).busy = true) :
    s.Alone i := by
  refine fun j => ⟨fun hj => of_eligible_only h hj, ?_⟩
  rintro rfl
  exact eligible_of_select (select_only h hbusy)

/-- Steps of the controller leave the GPU alone when their accesses have nothing to do with it. -/
theorem gpu_run_of_silent (moves : List Move) : ∀ {s : System},
    (∀ move ∈ moves, move.isDma = true) → (∀ e ∈ s.log moves, e.access.isSilent = true) →
    (s.run moves).gpu = s.gpu := by
  induction moves with
  | nil => exact fun _ _ => rfl
  | cons move moves ih =>
    intro s hmoves hlog
    rw [List.forall_mem_cons] at hmoves
    rw [log_cons] at hlog
    refine (ih hmoves.2 fun e he => hlog e (List.mem_append_right _ he)).trans ?_
    cases move with
    | dma =>
      exact gpu_move_of_silent s fun e he =>
        hlog e (List.mem_append_left _ (Option.mem_toList.2 he))
    | gpu operation => cases hmoves.1
    | dpcr value => cases hmoves.1

/-- The schedule in which the ordering-table channel makes its table alone. -/
def tablePhase (s : System) : List Move :=
  .dpcr (only tableChannel) :: List.replicate (s.channel tableChannel).blockSize .dma

/-- **The table alone**: the channel gets done, and nothing else happens. -/
theorem table_phase (hsound : (s.channel 6).Sound 6) (hfresh : (s.channel 6).Fresh) :
    (∀ e ∈ s.log s.tablePhase, e.channel = 6) ∧ ((s.run s.tablePhase).channel 6).busy = false ∧
      (∀ j, j ≠ 6 → (s.run s.tablePhase).channel j = s.channel j) ∧
      (s.run s.tablePhase).gpu = s.gpu := by
  let u : System := s.move (.dpcr (only 6))
  let steps : List Move := List.replicate (s.channel 6).blockSize .dma
  have hsteps : ∀ move ∈ steps, move.isDma = true := by
    intro move hmove
    rw [List.eq_of_mem_replicate hmove]
    rfl
  have hkeeps : ∀ move ∈ steps, move.keepsDpcr = true := by
    intro move hmove
    rw [List.eq_of_mem_replicate hmove]
    rfl
  have halone : u.Alone 6 := alone_only rfl hfresh.busy
  obtain ⟨hrun, hlength⟩ := alone_table (s := u) steps hsound hfresh halone hkeeps
  obtain ⟨howner, hothers⟩ := run_others (s := u) steps (fun j hj => (halone j).1 hj) hkeeps
  refine ⟨howner, ?_, hothers, gpu_run_of_silent (s := u) steps hsteps fun e he => ?_⟩
  · have hcount : steps.countP Move.isDma = (u.channel 6).blockSize :=
      (List.countP_eq_length.2 hsteps).trans List.length_replicate
    show ((u.run steps).channel 6).busy = false
    rw [hrun.busy, length_tableAccesses, hlength, hcount, Nat.min_self]
    exact decide_eq_false (Nat.lt_irrefl _)
  · obtain ⟨k, -, hk⟩ := hrun.getElem?_of_mem he
    obtain ⟨_, -, haccess⟩ := of_mem_tableAccesses (List.mem_of_getElem? hk)
    rw [haccess]
    rfl

/-! ## The share of a channel -/

/-- A channel has to do with a move: it gets the bus, or something is done with the GPU. -/
def concerns (s : System) (i : ChannelIndex) : Move → Bool
  | .dma => s.dma.select = some i
  | .gpu _ => true
  | .dpcr _ => false

/-- The moves of a schedule that a channel has to do with. -/
def share (s : System) (i : ChannelIndex) : List Move → List Move
  | [] => []
  | move :: moves => (if s.concerns i move then [move] else []) ++ (s.move move).share i moves

theorem keepsDpcr_share (moves : List Move) : ∀ (s : System) (i : ChannelIndex),
    ∀ move ∈ s.share i moves, move.keepsDpcr = true := by
  induction moves with
  | nil => exact fun s i move h => absurd h List.not_mem_nil
  | cons first moves ih =>
    intro s i move h
    rw [share, List.mem_append] at h
    rcases h with hfirst | hlater
    · split at hfirst
      · obtain rfl := List.mem_singleton.1 hfirst
        cases move with
        | dpcr value => next hconcerns => cases hconcerns
        | _ => rfl
      · cases hfirst
    · exact ih _ i move hlater

end System

/-- What a channel with a plan of reads does next depends on the channel and the GPU alone. -/
theorem Timetable.Runs.step_congr {t : Timetable} {x y : System} {i : ChannelIndex}
    (hx : t.Runs x) (hy : t.Runs y) (hi : t.planned i) (hreads : ∀ a ∈ t.plan i, a.stores = false)
    (hchannel : x.channel i = y.channel i) (hgpu : x.gpu = y.gpu)
    (hbusy : (x.channel i).busy = true) :
    (x.channel i).cycle? i x.memory x.gpu = (y.channel i).cycle? i y.memory y.gpu ∧
      (x.channel i).stepped i x.memory x.gpu = (y.channel i).stepped i y.memory y.gpu := by
  obtain ⟨log, hkept⟩ := hx.kept
  obtain ⟨log', hkept'⟩ := hy.kept
  obtain ⟨rest, hsplit, hplan⟩ := hkept.plans i hi
  obtain ⟨c, a, more, hstarted, haccess, rfl, -⟩ := hplan.next hbusy
  -- the word that is read next is what it was at the start, in both systems
  have ha : a ∈ t.plan i := by
    rw [hsplit]
    exact List.mem_append_right _ List.mem_cons_self
  have hword : x.memory.ramWord a.address = y.memory.ramWord a.address :=
    (hkept.memory i hi a ha (hreads a ha)).trans (hkept'.memory i hi a ha (hreads a ha)).symm
  have hserve : c.serve x.memory = c.serve y.memory := by
    refine Channel.serve_congr fun address hheader => ?_
    obtain rfl : a = .header address := Option.some.inj (haccess.symm.trans hheader)
    exact hword
  rw [← hchannel, ← hgpu]
  cases hwaits : c.waits x.gpu with
  | true =>
    have hstep : ∀ m, (x.channel i).cycle? i m x.gpu = none ∧
        (x.channel i).stepped i m x.gpu = c := fun m => Channel.step_of_waits hstarted hwaits
    rw [(hstep _).1, (hstep _).1, (hstep _).2, (hstep _).2]
    exact ⟨rfl, rfl⟩
  | false =>
    have hstep : ∀ m, (x.channel i).cycle? i m x.gpu = some ⟨i, a, m.ramWord a.address⟩ ∧
        (x.channel i).stepped i m x.gpu = c.serve m := by
      intro m
      have hsame : a.word m x.gpu = m.ramWord a.address := Access.word_of_reads (hreads a ha)
      rw [← hsame]
      obtain ⟨hcycle, hstepped⟩ := Channel.step_of_ready (i := i) hstarted hwaits
      rw [hcycle, hstepped, haccess]
      exact ⟨rfl, rfl⟩
    rw [(hstep _).1, (hstep _).1, (hstep _).2, (hstep _).2, hword, hserve]
    exact ⟨rfl, rfl⟩

/-- Two systems that keep to one timetable and look the same to the GPU channel; in the second one
no other channel is enabled. -/
structure Alike (t : Timetable) (x y : System) : Prop where
  left : t.Runs x
  right : t.Runs y
  channel : x.channel 2 = y.channel 2
  gpu : x.gpu = y.gpu
  enabled : y.dma.dpcr = ⟨only 2⟩

namespace Alike

variable {t : Timetable} {a : UInt32} {n : Nat} {x y : System}

/-- A step that does not give the GPU channel the bus leaves it and the GPU alone. -/
theorem gpu_move_dma (ht : t.Joint a n) (hx : t.Runs x) (hselect : x.dma.select ≠ some 2) :
    (x.move .dma).gpu = x.gpu := by
  refine x.gpu_move_of_silent fun e he => ?_
  obtain ⟨log, hkept⟩ := hx.kept
  have hnext := hkept.move (hx.silent [.dma])
  have hmem : e ∈ log ++ (x.cycleOf .dma).toList :=
    List.mem_append_right _ (Option.mem_toList.2 he)
  obtain ⟨hplanned, hplan⟩ := hnext.mem_plan hmem
  have htable : e.channel = 6 := by
    refine ((ht.planned _).1 hplanned).resolve_left fun hreader => hselect ?_
    rw [← hreader]
    exact (System.of_cycle? he).1
  rw [htable, ht.table] at hplan
  obtain ⟨k, -, haccess⟩ := of_mem_tableAccesses hplan
  rw [haccess]
  rfl

/-- **One move** of the first system, and the channel's share of it in the second. -/
theorem move (ht : t.Joint a n) (h : Alike t x y) (move : Move) :
    Alike t (x.move move) (y.run (if x.concerns 2 move then [move] else [])) := by
  cases move with
  | gpu operation =>
    exact ⟨h.left.move _, h.right.move (.gpu operation), h.channel,
      congrArg (Gpu.perform · operation) h.gpu, h.enabled⟩
  | dpcr value => exact ⟨h.left.move _, h.right, h.channel, h.gpu, h.enabled⟩
  | dma =>
    by_cases hselect : x.dma.select = some 2
    · -- both channels make the same step
      have hbusy := (System.enabled_and_busy hselect).2
      have hselect' : y.dma.select = some 2 :=
        System.select_only h.enabled (h.channel ▸ hbusy)
      obtain ⟨hcycle, hstepped⟩ := h.left.step_congr h.right ((ht.planned 2).2 (.inl rfl))
        ht.reads h.channel h.gpu hbusy
      have hcycles : x.cycle? = y.cycle? := by
        rw [System.cycle?, System.cycle?, hselect, hselect']
        exact hcycle
      rw [if_pos (show x.concerns 2 .dma = true from decide_eq_true hselect)]
      refine ⟨h.left.move _, h.right.move .dma, ?_, ?_, ?_⟩
      · show (x.move .dma).channel 2 = (y.move .dma).channel 2
        rw [System.channel_move_dma, System.channel_move_dma, if_pos hselect, if_pos hselect']
        exact hstepped
      · show (x.move .dma).gpu = (y.move .dma).gpu
        rw [System.gpu_move_dma, System.gpu_move_dma, hcycles, h.gpu]
      · show (y.move .dma).dma.dpcr = _
        rw [System.dpcr_move_dma, h.enabled]
    · rw [if_neg (show ¬x.concerns 2 .dma = true from fun hc => hselect (of_decide_eq_true hc))]
      refine ⟨h.left.move _, h.right, ?_, (gpu_move_dma ht h.left hselect).trans h.gpu, h.enabled⟩
      rw [System.channel_move_dma, if_neg hselect]
      exact h.channel

/-- **A whole schedule**, and the channel's share of it. -/
theorem run (ht : t.Joint a n) (moves : List Move) : ∀ {x y : System}, Alike t x y →
    Alike t (x.run moves) (y.run (x.share 2 moves)) := by
  induction moves with
  | nil => exact fun h => h
  | cons move moves ih =>
    intro x y h
    rw [System.share, System.run_append]
    exact ih (h.move ht move)

end Alike

/-! ## In turn -/

/-- Two transfers one after the other: in the first part of a schedule only channel `i` moves words,
until it is done, and channel `j` stays as it is; then only channel `j` moves words, until it is
done. -/
structure InTurn (s : System) (i j : ChannelIndex) (first second : List Move) : Prop where
  first_only : ∀ e ∈ s.log first, e.channel = i
  first_done : ((s.run first).channel i).busy = false
  untouched : (s.run first).channel j = s.channel j
  second_only : ∀ e ∈ (s.run first).log second, e.channel = j
  second_done : ((s.run (first ++ second)).channel j).busy = false

/-- No schedule makes a channel busy. -/
theorem System.busy_run (moves : List Move) : ∀ {s : System} {i : ChannelIndex},
    (s.channel i).busy = false → ((s.run moves).channel i).busy = false := by
  induction moves with
  | nil => exact fun h => h
  | cons move moves ih =>
    intro s i h
    refine ih (s := s.move move) ?_
    cases move with
    | dma =>
      rw [channel_move_dma]
      split
      · cases hbusy : ((s.channel i).stepped i s.memory s.gpu).busy with
        | false => rfl
        | true =>
          rw [Channel.busy_of_stepped hbusy] at h
          cases h
      · exact h
    | gpu operation => exact h
    | dpcr value => exact h

/-- The schedule in which the GPU channel alone does what it does in another one. -/
def System.readerPhase (s : System) (moves : List Move) : List Move :=
  .dpcr (only gpuChannel) :: s.share gpuChannel moves

/-- **The reader alone** gets as far as it does beside the table, and so does the GPU. -/
theorem reader_phase {t : Timetable} {a : UInt32} {n : Nat} (ht : t.Joint a n) {s u : System}
    (hs : t.Runs s) (hu : t.Runs u) (hchannel : s.channel 2 = u.channel 2) (hgpu : s.gpu = u.gpu)
    (moves : List Move) :
    (∀ e ∈ u.log (s.readerPhase moves), e.channel = 2) ∧
      (u.run (s.readerPhase moves)).channel 2 = (s.run moves).channel 2 ∧
      (∀ j, j ≠ 2 → (u.run (s.readerPhase moves)).channel j = u.channel j) ∧
      (u.run (s.readerPhase moves)).gpu = (s.run moves).gpu := by
  have hstart : Alike t s (u.move (.dpcr (only 2))) :=
    ⟨hs, hu.move (.dpcr (only 2)), hchannel, hgpu, rfl⟩
  have hend := Alike.run ht moves hstart
  obtain ⟨howner, hothers⟩ := System.run_others (s := u.move (.dpcr (only 2))) (s.share 2 moves)
    (fun j hj => System.of_eligible_only hstart.enabled hj) (System.keepsDpcr_share moves s 2)
  exact ⟨howner, hend.channel.symm, hothers, hend.gpu.symm⟩

/-- **Two transfers do not disturb each other.**  However their steps are ordered, when both are
done they have queued the same words, stored the same words, and left the same registers as when
they go one after the other; and that they can, in either order, with the GPU doing the same. -/
theorem System.run_concurrent {s : System} {words : List UInt32} (moves : List Move)
    (hpair : Pair s words) (hreader : ((s.run moves).channel 2).busy = false)
    (hwriter : ((s.run moves).channel 6).busy = false) :
    (∃ first second, InTurn s 6 2 first second ∧
        (s.run (first ++ second)).gpu = (s.run moves).gpu) ∧
      (∃ first second, InTurn s 2 6 first second ∧
        (s.run (first ++ second)).gpu = (s.run moves).gpu) ∧
      ∀ first second, InTurn s 6 2 first second ∨ InTurn s 2 6 first second →
        SameOutcome s moves (first ++ second) := by
  obtain ⟨t, ht, hmemory, hkept, hruns⟩ := hpair.timetable
  refine ⟨?_, ?_, fun first second hturn => ?_⟩
  · -- first the table, then the reader beside the table
    obtain ⟨hfirst, hdone, hothers, hgpu⟩ := table_phase (hpair.reachable.sound 6) hpair.table
    have huntouched := hothers 2 (by decide)
    obtain ⟨hsecond, hchannel, -, hgpu'⟩ := reader_phase ht hruns (hruns.run s.tablePhase)
      huntouched.symm hgpu.symm moves
    refine ⟨s.tablePhase, s.readerPhase moves, ⟨hfirst, hdone, huntouched, hsecond, ?_⟩, ?_⟩
    · rw [run_append, hchannel]
      exact hreader
    · rw [run_append, hgpu']
  · -- first the reader, then the table
    obtain ⟨hfirst, hchannel, hothers, hgpu⟩ := reader_phase ht hruns hruns rfl rfl moves
    have huntouched := hothers 6 (by decide)
    obtain ⟨hsecond, hdone, -, hgpu'⟩ := table_phase (s := s.run (s.readerPhase moves))
      (huntouched.symm ▸ hpair.reachable.sound 6) (huntouched.symm ▸ hpair.table)
    refine ⟨s.readerPhase moves, _, ⟨hfirst, ?_, huntouched, hsecond, ?_⟩, ?_⟩
    · rw [hchannel]
      exact hreader
    · rw [run_append]
      exact hdone
    · rw [run_append, hgpu', hgpu]
  · obtain ⟨hqueued, hmem, hchannel, hchannel'⟩ :=
      ht.outcome hmemory hkept hruns moves hreader hwriter
    have hdone : ((s.run (first ++ second)).channel 2).busy = false ∧
        ((s.run (first ++ second)).channel 6).busy = false := by
      rcases hturn with h | h
      · refine ⟨h.second_done, ?_⟩
        rw [run_append]
        exact busy_run second h.first_done
      · refine ⟨?_, h.second_done⟩
        rw [run_append]
        exact busy_run second h.first_done
    obtain ⟨hqueued', hmem', hturned, hturned'⟩ :=
      ht.outcome hmemory hkept hruns (first ++ second) hdone.1 hdone.2
    exact ⟨hqueued.trans hqueued'.symm, hmem.trans hmem'.symm, hchannel.trans hturned.symm,
      hchannel'.trans hturned'.symm⟩

namespace System

/-- A table of four entries, and a block of three words for the GPU from elsewhere. -/
def tableAndBlock : System :=
  ⟨((enabling 0x0F654B21).request gpuChannel 0x1000 3 0x11000001).request tableChannel
    0x2000 4 0x11000002, .blank, {}⟩

theorem pair_tableAndBlock : Pair tableAndBlock [0x1000, 0x1004, 0x1008] where
  reachable := ((Reachable.enabling _).request 2 _ _ _).request 6 _ _ _
  table := ⟨by decide, by decide⟩
  fresh := ⟨by decide, by decide⟩
  direction := by decide
  reads := .blocks (.inl (by decide))
  apart := by
    have hsize : (tableAndBlock.channel 6).blockSize = 4 := by decide
    -- the block lies below the table
    have habove : ∀ k < 4, 0x1FF4 ≤ wordOffset (place (tableAndBlock.channel 6).madr down k) := by
      decide
    intro k hk address hmem
    have hentry := habove k (hsize ▸ hk)
    have hword : wordOffset address < 0x1FF4 := by
      rcases List.mem_cons.1 hmem with rfl | hmem
      · decide
      · rcases List.mem_cons.1 hmem with rfl | hmem
        · decide
        · obtain rfl := List.mem_singleton.1 hmem
          decide
    omega

/-- Two words are queued, then the table gets the bus first, and two entries are made. -/
def firstHalf : List Move := [.dma, .dma, .gpu .step, .dpcr 0x08654F21, .dma, .dma]

/-- The bus goes back to the block, and then both are done. -/
def secondHalf : List Move := [.dpcr 0x0F654B21, .dma, .gpu .step, .dma, .dma]

/-- Both are under way in the middle. -/
theorem run_concurrent_tableAndBlock :
    let middle := tableAndBlock.run firstHalf
    let moves := firstHalf ++ secondHalf
    (middle.channel 2).inFlight = true ∧ (middle.channel 6).inFlight = true ∧
      (tableAndBlock.queuedBy 2 moves).length = 3 ∧
      SameOutcome tableAndBlock moves
        (tableAndBlock.tablePhase ++ tableAndBlock.readerPhase moves) ∧
      ∃ table, SameOutcome tableAndBlock moves (tableAndBlock.readerPhase moves ++ table) := by
  intro middle moves
  have hreader : ((tableAndBlock.run moves).channel 2).busy = false := by decide +kernel
  have hwriter : ((tableAndBlock.run moves).channel 6).busy = false := by decide +kernel
  obtain ⟨-, -, hsame⟩ := run_concurrent moves pair_tableAndBlock hreader hwriter
  have htable : InTurn tableAndBlock 6 2 tableAndBlock.tablePhase
      (tableAndBlock.readerPhase moves) :=
    ⟨by decide +kernel, by decide +kernel, by decide +kernel, by decide +kernel, by decide +kernel⟩
  let entries : List Move := .dpcr (only tableChannel) :: List.replicate 4 .dma
  have hblock : InTurn tableAndBlock 2 6 (tableAndBlock.readerPhase moves) entries :=
    ⟨by decide +kernel, by decide +kernel, by decide +kernel, by decide +kernel, by decide +kernel⟩
  exact ⟨by decide +kernel, by decide +kernel, by decide +kernel, hsame _ _ (.inl htable),
    entries, hsame _ _ (.inr hblock)⟩

end System

end PlayStation.Dma

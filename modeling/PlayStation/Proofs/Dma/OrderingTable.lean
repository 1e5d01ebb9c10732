/-
  ORDERING TABLES.

  The ordering-table channel fills RAM with a list of empty packets, the last entry first: each
  points to the one below it, and the lowest ends the list (`IsTable`).  It does so with every step
  that it has the bus for, as it never waits (`run_table`).

  The list is one that a list transfer goes through (`packetList_table`): it reads each of the
  headers, and there is no payload to queue.  RAM and GPU stay as they are, and the address register
  goes down the table with it (`run_walk`).
-/
import PlayStation.Proofs.Dma.ListTransfer

namespace PlayStation.Dma

open Memory (wordOffset)

/-! ## The channel -/

/-- The entry of number `k` in a table of `n`, down from an address. -/
def tableWord (a : UInt32) (n k : Nat) : UInt32 :=
  if k + 1 = n then listEnd else place a down (k + 1)

/-- The stores that make a table. -/
def tableAccesses (a : UInt32) (n : Nat) : List Access :=
  (List.range n).map fun k => .entry (place a down k) (tableWord a n k)

theorem length_tableAccesses (a : UInt32) (n : Nat) : (tableAccesses a n).length = n := by
  rw [tableAccesses, List.length_map, List.length_range]

theorem of_mem_tableAccesses {a : UInt32} {n : Nat} {x : Access} (h : x ∈ tableAccesses a n) :
    ∃ k < n, x = .entry (place a down k) (tableWord a n k) := by
  obtain ⟨k, hk, rfl⟩ := List.mem_map.1 h
  exact ⟨k, List.mem_range.1 hk, rfl⟩

/-- **The plan of the ordering-table channel.** -/
theorem Channel.plan_table {c : Channel} {i : ChannelIndex} {m : Memory} (hc : c.Sound i)
    (hfresh : c.Fresh) (hdevice : c.device = .otc) :
    Plan m i c (tableAccesses c.madr c.blockSize) (c.ended (place c.madr down c.blockSize)) := by
  obtain ⟨hmode, hdirection⟩ := mode_of_sound hc hdevice
  have hlatch : c.latch i =
      .ok (.block ⟨c.madr &&& ramWordMask, down, c.blockSize, c.blockSize, 1⟩) := by
    rw [latch, hdevice, hmode, hdirection]
    rfl
  have hplan := plan_of_latch (m := m) hfresh (by decide) (Nat.le_refl 1) hlatch
  have haccess : ∀ k, c.blockAccess (place c.madr down k) (k + 1 == c.blockSize) =
      .entry (place c.madr down k) (tableWord c.madr c.blockSize k) := by
    intro k
    have hbelow : (place c.madr down k - 4) &&& ramWordMask = place c.madr down (k + 1) := by
      rw [UInt32.sub_eq_add_neg, ← place_succ (by decide)]
      rfl
    rw [blockAccess, if_pos hdevice, hbelow, tableWord]
    simp only [beq_iff_eq]
  simp only [Nat.mul_one, haccess] at hplan
  exact hplan

/-! ## Tables -/

/-- `after` is `before` with a table of `n` entries, down from an address. -/
structure IsTable (before after : Memory) (a : UInt32) (n : Nat) : Prop where
  /-- Each entry is the address of the one below it. -/
  entries : ∀ k, k + 1 < n → after.ramWord (place a down k) = place a down (k + 1)
  /-- The lowest one ends the list. -/
  last : after.ramWord (place a down (n - 1)) = listEnd
  others : ∀ address, (∀ k < n, wordOffset (place a down k) ≠ wordOffset address) →
    after.ramWord address = before.ramWord address

/-- Entries of a table are different words. -/
theorem wordOffset_entry_ne {a : UInt32} {n j k : Nat} (hn : n ≤ 0x10000) (hjk : j < k)
    (hk : k < n) : wordOffset (place a down j) ≠ wordOffset (place a down k) := by
  rw [Ne, wordOffset_inj, masked_place, masked_place]
  exact place_ne (.inr rfl) hjk (by omega)

/-- The stores of a table make one. -/
theorem isTable_of_stored {log : List BusCycle} {m : Memory} {a : UInt32} {n : Nat}
    (hpos : 1 ≤ n) (hn : n ≤ 0x10000) (hlog : log.map (·.access) = tableAccesses a n)
    (hwords : ∀ e ∈ log, ∃ memory gpu, e.word = e.access.word memory gpu) :
    IsTable m (stored log m) a n := by
  -- no store is undone by a later one
  have hapart : log.Pairwise fun e f =>
      wordOffset f.access.address ≠ wordOffset e.access.address := by
    have hall : (tableAccesses a n).Pairwise fun x y =>
        wordOffset y.address ≠ wordOffset x.address := by
      rw [tableAccesses, List.pairwise_map]
      refine List.Pairwise.imp_of_mem ?_ List.pairwise_lt_range
      intro i j _ hj hij
      exact (wordOffset_entry_ne hn hij (List.mem_range.1 hj)).symm
    rw [← hlog, List.pairwise_map] at hall
    exact hall
  have hentry : ∀ k < n, (stored log m).ramWord (place a down k) = tableWord a n k := by
    intro k hk
    have hmem : Access.entry (place a down k) (tableWord a n k) ∈ log.map (·.access) := by
      rw [hlog]
      exact List.mem_map_of_mem (List.mem_range.2 hk)
    obtain ⟨e, he, haccess⟩ := List.mem_map.1 hmem
    obtain ⟨memory, gpu, hword⟩ := hwords e he
    have hstored : (stored log m).ramWord e.access.address = e.word :=
      ramWord_stored he (by rw [haccess]; rfl) hapart
    rw [hword, haccess] at hstored
    exact hstored
  refine ⟨fun k hk => ?_, ?_, fun address hothers => ?_⟩
  · rw [hentry k (by omega), tableWord, if_neg (by omega)]
  · rw [hentry _ (by omega), tableWord, if_pos (by omega)]
  · refine ramWord_stored_of_ne fun e he _ => ?_
    obtain ⟨k, hk, haccess⟩ := of_mem_tableAccesses (hlog ▸ List.mem_map_of_mem he)
    rw [haccess]
    exact hothers k hk

section Walk

variable {before after : Memory} {a : UInt32} {n : Nat}

theorem ramWord_entry (h : IsTable before after a n) {k : Nat} (hk : k < n) :
    after.ramWord (place a down k) = tableWord a n k := by
  unfold tableWord
  split
  · obtain rfl : k = n - 1 := by omega
    exact h.last
  · exact h.entries k (by omega)

/-- An entry is the header of an empty packet. -/
theorem packetCount_entry (h : IsTable before after a n) {k : Nat} (hk : k < n) :
    packetCount after (place a down k) = 0 := by
  rw [packetCount, ramWord_entry h hk, tableWord]
  split
  · rfl
  · exact Word.field_and_of_misses _ (by decide)

/-- It points to the one below it, or ends the list. -/
theorem packetNext_entry (h : IsTable before after a n) {k : Nat} (hk : k < n) :
    packetNext after (place a down k) = tableWord a n k := by
  rw [packetNext, ramWord_entry h hk, tableWord]
  split
  · rfl
  · rw [place, UInt32.and_assoc]
    rfl

/-- **A table is a chain of packets**, from each of its entries on. -/
theorem packetList_table (h : IsTable before after a n) (j : Nat) : ∀ k, k + j + 1 = n →
    PacketList after (place a down k) ((List.range (j + 1)).map fun l => place a down (k + l)) := by
  -- on the entries below, as a chain is built from its end
  induction j with
  | zero =>
    intro k hk
    refine .last ?_
    rw [packetNext_entry h (by omega), tableWord, if_pos hk]
  | succ j ih =>
    intro k hk
    have hnext : packetNext after (place a down k) = place a down (k + 1) := by
      rw [packetNext_entry h (by omega), tableWord, if_neg (by omega)]
    -- the mark of the end is not an address within RAM
    have hne : place a down (k + 1) ≠ listEnd := by
      intro heq
      have hlt : (place a down (k + 1)).toNat < 0x200000 := toNat_place_lt (k + 1)
      rw [heq] at hlt
      exact absurd hlt (by decide)
    rw [List.range_succ_eq_map, List.map_cons, List.map_map]
    refine .cons (hnext ▸ hne) ?_
    have hrest := ih (k + 1) (by omega)
    rw [hnext, masked_place]
    have hshift : ∀ l, k + 1 + l = k + (l + 1) := fun l => by omega
    simp only [hshift] at hrest
    exact hrest

/-- The reads of the entries of a table, as headers of packets. -/
def headers (a : UInt32) (n : Nat) : List Access :=
  (List.range n).map fun k => .header (place a down k)

theorem length_headers (a : UInt32) (n : Nat) : (headers a n).length = n := by
  rw [headers, List.length_map, List.length_range]

theorem of_mem_headers {x : Access} (h : x ∈ headers a n) : ∃ address, x = .header address := by
  obtain ⟨k, -, rfl⟩ := List.mem_map.1 h
  exact ⟨_, rfl⟩

theorem reads_headers : ∀ x ∈ headers a n, ∀ y ∈ headers a n, x.stores = y.stores := by
  intro x hx y hy
  obtain ⟨_, rfl⟩ := of_mem_headers hx
  obtain ⟨_, rfl⟩ := of_mem_headers hy
  rfl

/-- A list transfer reads the entries of a table, and nothing else. -/
theorem listAccesses_table (h : IsTable before after a n) :
    listAccesses after ((List.range n).map (place a down)) = headers a n := by
  have hsingle : ∀ p ∈ (List.range n).map (place a down),
      packetAccesses after p = [.header p] := by
    intro p hp
    obtain ⟨k, hk, rfl⟩ := List.mem_map.1 hp
    rw [packetAccesses, packetCount_entry h (List.mem_range.1 hk)]
    rfl
  rw [listAccesses, List.flatMap_def, List.map_congr_left hsingle, ← List.flatMap_def,
    ← List.map_eq_flatMap, List.map_map]
  rfl

end Walk

/-! ## Schedules -/

/-- A list transfer is to begin at an address, alone and with room in the FIFO. -/
structure WalkStart (s : System) (a : UInt32) : Prop where
  reachable : Reachable s.dma
  fresh : (s.channel 2).Fresh
  mode : (s.channel 2).syncMode = .linkedList
  direction : (s.channel 2).direction = .fromRam
  madr : (s.channel 2).madr &&& ramWordMask = a &&& ramWordMask
  alone : s.Alone 2
  gpu : Gpu.Reachable s.gpu
  request : s.gpu.status.dmaDirection = 2
  room : s.gpu.fifo.isFull = false

/-- How far it has come through a table of `n` entries, from `t` to `u`, after some steps of the
controller that made a log. -/
structure WalkRun (t u : System) (a : UInt32) (n steps : Nat) (log : List BusCycle) : Prop where
  /-- Every step reads the next header, until all are read. -/
  visited : log.map (·.access) = (headers a n).take steps
  /-- Nothing is queued with the GPU. -/
  silent : pushed log = []
  /-- RAM is what it was. -/
  memory : u.memory = t.memory
  busy : (u.channel 2).busy = decide (steps < n)
  /-- While headers are left, a step reads the next entry, and leaves its pointer in the address
  register. -/
  moving : steps < n →
    u.cycle? = some ⟨2, .header (place a down steps), tableWord a n steps⟩ ∧
      ((u.move .dma).channel 2).madr = tableWord a n steps ∧
      (u.move .dma).memory = u.memory ∧ (u.move .dma).gpu = u.gpu
  /-- Then the address is the end of the list, and a step does nothing. -/
  finished : n ≤ steps → (u.channel 2).madr = listEnd ∧ u.cycle? = none ∧
    (u.move .dma).memory = u.memory ∧ (u.move .dma).gpu = u.gpu

namespace System

/-- Room in the FIFO is not lost while nothing is queued. -/
theorem isFull_run (moves : List Move) : ∀ {s : System}, s.gpu.Sound →
    s.gpu.fifo.isFull = false → (∀ move ∈ moves, move.isStep = true) →
    (∀ e ∈ s.log moves, e.access.isSilent = true) → (s.run moves).gpu.fifo.isFull = false := by
  induction moves with
  | nil => exact fun _ hroom _ _ => hroom
  | cons move moves ih =>
    intro s hsound hroom hmoves hlog
    rw [List.forall_mem_cons] at hmoves
    rw [log_cons] at hlog
    have hlater : ∀ e ∈ (s.move move).log moves, e.access.isSilent = true :=
      fun e he => hlog e (List.mem_append_right _ he)
    cases move with
    | dma =>
      have hsame : (s.move .dma).gpu = s.gpu :=
        gpu_move_of_silent s fun e he => hlog e (List.mem_append_left _ (Option.mem_toList.2 he))
      exact ih (hsame ▸ hsound) (hsame ▸ hroom) hmoves.2 hlater
    | gpu operation =>
      cases operation with
      | step => exact ih hsound.step (Gpu.isFull_step hsound) hmoves.2 hlater
      | _ => cases hmoves.1
    | dpcr value => cases hmoves.1

section Walk

variable {s : System} {before : Memory} {a : UInt32} {n : Nat} {walk : List Move} (hpos : 1 ≤ n)
  (htable : IsTable before s.memory a n) (hstart : WalkStart s a)
include hpos htable hstart

/-- The plan of a list transfer through a table. -/
theorem plan_walk :
    Plan s.memory 2 (s.channel 2) (headers a n) ((s.channel 2).ended listEnd) := by
  have hlist := packetList_table htable (n - 1) 0 (by omega)
  rw [place_zero, Nat.sub_add_cancel hpos, ← hstart.madr] at hlist
  simp only [Nat.zero_add] at hlist
  rw [← listAccesses_table htable]
  exact Channel.plan_of_list hstart.fresh (hstart.reachable.sound 2).device hstart.mode
    hstart.direction hlist

theorem alone_walk (hwalk : ∀ move ∈ walk, move.isStep = true) :
    AloneRun s (s.run walk) 2 (headers a n) ((s.channel 2).ended listEnd) (s.log walk) :=
  run_alone hstart.alone (fun move h => Move.keepsDpcr_of_isStep (hwalk move h))
    (plan_walk hpos htable hstart) reads_headers

/-- It has only to do with headers. -/
theorem header_of_mem_walk (hwalk : ∀ move ∈ walk, move.isStep = true) :
    ∀ e ∈ s.log walk, ∃ address, e.access = .header address := by
  intro e he
  obtain ⟨k, -, hk⟩ := (alone_walk hpos htable hstart hwalk).getElem?_of_mem he
  exact of_mem_headers (List.mem_of_getElem? hk)

/-- So the FIFO has room all the time, and no step waits. -/
theorem ready_walk (hwalk : ∀ move ∈ walk, move.isStep = true) :
    ∀ x ∈ headers a n, (s.channel 2).waitsFor x (s.run walk).gpu = false := by
  intro x hx
  obtain ⟨_, rfl⟩ := of_mem_headers hx
  show Channel.listWaits (s.run walk).gpu = false
  rw [Gpu.listWaits_eq ((dmaDirection_run walk hwalk).trans hstart.request)]
  refine isFull_run walk hstart.gpu.sound hstart.room hwalk fun e he => ?_
  obtain ⟨_, haccess⟩ := header_of_mem_walk hpos htable hstart hwalk e he
  rw [haccess]
  rfl

theorem memory_walk (hwalk : ∀ move ∈ walk, move.isStep = true) :
    (s.run walk).memory = s.memory := by
  rw [memory_run]
  refine stored_of_reads fun e he => ?_
  obtain ⟨_, haccess⟩ := header_of_mem_walk hpos htable hstart hwalk e he
  rw [haccess]
  rfl

/-- A list transfer goes through a table, with an entry for every step. -/
theorem run_walk (hwalk : ∀ move ∈ walk, move.isStep = true) :
    WalkRun s (s.run walk) a n (walk.countP Move.isDma) (s.log walk) := by
  have hrun := alone_walk hpos htable hstart hwalk
  have hready := ready_walk hpos htable hstart hwalk
  have hmemory := memory_walk hpos htable hstart hwalk
  have hlength : (headers a n).length = n := length_headers a n
  have hsteps : (s.log walk).length = min (walk.countP Move.isDma) n := by
    rw [← hlength]
    exact length_log hstart.alone (fun move h => Move.keepsDpcr_of_isStep (hwalk move h))
      (plan_walk hpos htable hstart) reads_headers fun moves hbefore =>
        ready_walk hpos htable hstart fun move h => hwalk move (hbefore.subset h)
  refine ⟨?_, ?_, hmemory, ?_, fun hmore => ?_, fun hall => ?_⟩
  · have htake : (headers a n).take (walk.countP Move.isDma) =
        (headers a n).take (min (walk.countP Move.isDma) n) := by
      rw [List.take_eq_take_min, hlength]
    rw [hrun.done, hsteps]
    exact htake.symm
  · refine List.filterMap_eq_nil_iff.2 fun e he => ?_
    obtain ⟨_, haccess⟩ := header_of_mem_walk hpos htable hstart hwalk e he
    rw [BusCycle.pushed?, haccess]
  · rw [hrun.busy, hlength, hsteps, decide_eq_decide]
    omega
  · generalize walk.countP Move.isDma = steps at *
    have hnth : (headers a n)[(s.log walk).length]? = some (.header (place a down steps)) := by
      rw [hsteps, Nat.min_eq_left (Nat.le_of_lt hmore), headers, List.getElem?_map,
        List.getElem?_range hmore]
      rfl
    have hcycle := hrun.moving _ hnth (hready _ (List.mem_of_getElem? hnth))
    obtain ⟨c, -, -, haccess, -, hserved⟩ := access_of_cycle? hcycle
    obtain ⟨hstored, hdelivered⟩ := move_of_cycle hcycle
    refine ⟨?_, ?_, hstored, hdelivered⟩
    · rw [hcycle, Access.word, hmemory, ramWord_entry htable hmore]
    · rw [hserved, hmemory, Channel.serve_of_empty haccess (packetCount_entry htable hmore),
        Channel.madr_followed, packetNext, UInt32.and_assoc]
      exact packetNext_entry htable hmore
  · obtain ⟨hend, hfree⟩ := hrun.finished (by omega)
    have hcycle : (s.run walk).cycle? = none := cycle?_of_free hfree
    refine ⟨?_, hcycle, move_of_idle hcycle⟩
    rw [hend]
    rfl

end Walk

/-- The ordering-table channel makes an entry with every step, until all are made. -/
theorem alone_table {s : System} (moves : List Move) (hsound : (s.channel 6).Sound 6)
    (hfresh : (s.channel 6).Fresh) (halone : s.Alone 6)
    (hmoves : ∀ move ∈ moves, move.keepsDpcr = true) :
    let a := (s.channel 6).madr
    let n := (s.channel 6).blockSize
    AloneRun s (s.run moves) 6 (tableAccesses a n) ((s.channel 6).ended (place a down n))
        (s.log moves) ∧
      (s.log moves).length = min (moves.countP Move.isDma) n := by
  intro a n
  have hdevice : (s.channel 6).device = .otc := hsound.device
  have hstores : ∀ b ∈ tableAccesses a n, ∀ c ∈ tableAccesses a n, b.stores = c.stores := by
    intro b hb c hc
    obtain ⟨_, -, rfl⟩ := of_mem_tableAccesses hb
    obtain ⟨_, -, rfl⟩ := of_mem_tableAccesses hc
    rfl
  have hready : ∀ before, before <+: moves →
      ∀ b ∈ tableAccesses a n, (s.channel 6).waitsFor b (s.run before).gpu = false := by
    intro before _ b hb
    obtain ⟨_, -, rfl⟩ := of_mem_tableAccesses hb
    exact Channel.blockWaits_of_sound hsound hdevice _
  have hplan := Channel.plan_table (m := s.memory) hsound hfresh hdevice
  refine ⟨run_alone halone hmoves hplan hstores, ?_⟩
  have hsteps := length_log halone hmoves hplan hstores hready
  rwa [length_tableAccesses] at hsteps

/-- **The ordering-table channel** makes a table, with an entry for every step; and a list transfer
that begins at the same address goes through it. -/
theorem run_table {s : System} (moves : List Move) (hreachable : Reachable s.dma)
    (hfresh : (s.channel 6).Fresh) (halone : s.Alone 6)
    (hmoves : ∀ move ∈ moves, move.keepsDpcr = true) :
    let a := (s.channel 6).madr
    let n := (s.channel 6).blockSize
    ((s.run moves).channel 6).busy = decide (moves.countP Move.isDma < n) ∧
      (n ≤ moves.countP Move.isDma →
        IsTable s.memory (s.run moves).memory a n ∧
        ∀ (t : System) (walk : List Move), t.memory = (s.run moves).memory → WalkStart t a →
          (∀ move ∈ walk, move.isStep = true) →
          WalkRun t (t.run walk) a n (walk.countP Move.isDma) (t.log walk)) := by
  intro a n
  obtain ⟨hrun, hsteps⟩ := alone_table moves (hreachable.sound 6) hfresh halone hmoves
  have hlength : (tableAccesses a n).length = n := length_tableAccesses a n
  refine ⟨?_, fun hdone => ?_⟩
  · rw [hrun.busy, hlength, hsteps, decide_eq_decide]
    omega
  · have hpos : 1 ≤ n := (s.channel 6).blockSize_pos
    have htable : IsTable s.memory (s.run moves).memory a n := by
      rw [memory_run]
      refine isTable_of_stored hpos (s.channel 6).blockSize_le ?_ fun e he =>
        word_of_mem_log moves s he
      have hall : (s.log moves).length = (tableAccesses a n).length := by omega
      rw [hrun.done, hall, List.take_length]
    refine ⟨htable, fun t walk hmemory hstart hwalk => ?_⟩
    exact run_walk hpos (hmemory ▸ htable) hstart hwalk

/-- A table of two entries at the bottom of RAM. -/
def table : System := ⟨(enabling 0x0F654321).request tableChannel 0 2 0x11000002, .blank, {}⟩

/-- A list transfer through it. -/
def tableWalk : System :=
  ⟨(enabling 0x07654B21).request gpuChannel 0 0 0x01000401, (table.run [.dma, .dma]).memory,
    ({} : Gpu).control 0x04000002⟩

theorem run_table_bottom :
    WalkRun tableWalk (tableWalk.run [.dma, .gpu .step, .dma]) (table.channel 6).madr
      (table.channel 6).blockSize 2 (tableWalk.log [.dma, .gpu .step, .dma]) :=
  ((run_table [.dma, .dma] ((Reachable.enabling _).request 6 _ _ _) ⟨by decide, by decide⟩
      (by decide) (by decide)).2 (by decide)).2 tableWalk _ rfl
    ⟨(Reachable.enabling _).request 2 _ _ _, ⟨by decide, by decide⟩, by decide, by decide,
      by decide, by decide, Gpu.Reachable.powerOn.perform (.control 0x04000002),
      by decide, by decide⟩
    (by decide)

end System

end PlayStation.Dma

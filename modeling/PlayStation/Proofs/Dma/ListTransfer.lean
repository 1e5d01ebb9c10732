/-
  LIST TRANSFERS.

  Packets lie in RAM in a chain: each begins with a header that tells how many words of payload
  follow and where the next packet is (`PacketList`).  A list transfer goes through the chain
  (`plan_list`): it reads the header of a packet, then queues the payload with the GPU, word by
  word.

  A schedule does so at the pace of the GPU, which takes words out of its FIFO (`run_list`): no word
  is queued while the FIFO is full, so none is lost, and in the end all the payload is queued, in
  the order of the chain.  While the FIFO cannot fill, every step of the controller reads a
  word (`length_log_list`).
-/
import Mathlib.Algebra.GroupWithZero.Nat
import PlayStation.Proofs.Dma.BlockTransfer
import PlayStation.Proofs.Gpu.DmaRequest
import PlayStation.Proofs.Gpu.Room

namespace PlayStation.Dma

/-! ## Chains of packets -/

section Packets

variable (m : Memory) (a : UInt32)

/-- The number of payload words of the packet at an address. -/
def packetCount : Nat := Word.field (m.ramWord a) 24 8

/-- The pointer to the packet behind the one at an address. -/
def packetNext : UInt32 := m.ramWord a &&& 0xFFFFFF

/-- The payload of the packet at an address. -/
def payload : List UInt32 :=
  (List.range (packetCount m a)).map fun k => m.ramWord (place a up (k + 1))

/-- What a list transfer does with the packet at an address. -/
def packetAccesses : List Access :=
  .header a :: (List.range (packetCount m a)).map fun k => .payload (place a up (k + 1))

end Packets

/-- What a list transfer does with a chain of packets. -/
def listAccesses (m : Memory) (packets : List UInt32) : List Access :=
  packets.flatMap (packetAccesses m)

/-- `PacketList m a packets`: from the packet at `a` on, the chain goes through `packets` and
ends. -/
inductive PacketList (m : Memory) : UInt32 → List UInt32 → Prop
  | last {a : UInt32} (hend : packetNext m a = listEnd) : PacketList m a [a]
  | cons {a : UInt32} {rest : List UInt32} (hnext : packetNext m a ≠ listEnd)
      (hrest : PacketList m (packetNext m a &&& ramWordMask) rest) : PacketList m a (a :: rest)

/-! ## The accesses -/

section Accesses

variable {m : Memory} {packets : List UInt32} {x : Access}

/-- An access to a chain reads a header, or a word of payload. -/
theorem of_mem_listAccesses (h : x ∈ listAccesses m packets) :
    (∃ a ∈ packets, x = .header a) ∨ ∃ address, x = .payload address := by
  obtain ⟨a, ha, hmem⟩ := List.mem_flatMap.1 h
  rcases List.mem_cons.1 hmem with hheader | hpayload
  · exact .inl ⟨a, ha, hheader⟩
  · obtain ⟨k, -, rfl⟩ := List.mem_map.1 hpayload
    exact .inr ⟨_, rfl⟩

theorem stores_of_mem_listAccesses (h : x ∈ listAccesses m packets) : x.stores = false := by
  rcases of_mem_listAccesses h with ⟨a, -, rfl⟩ | ⟨address, rfl⟩ <;> rfl

/-- So a chain is not changed while it is read. -/
theorem reads_listAccesses (m : Memory) (packets : List UInt32) :
    ∀ x ∈ listAccesses m packets, ∀ y ∈ listAccesses m packets, x.stores = y.stores := by
  intro x hx y hy
  rw [stores_of_mem_listAccesses hx, stores_of_mem_listAccesses hy]

/-- It waits for the FIFO alone. -/
theorem waitsFor_of_mem_listAccesses (c : Channel) {gpu : Gpu}
    (hgpu : gpu.status.dmaDirection = 2) (h : x ∈ listAccesses m packets) :
    c.waitsFor x gpu = gpu.fifo.isFull := by
  rcases of_mem_listAccesses h with ⟨a, -, rfl⟩ | ⟨address, rfl⟩ <;> exact Gpu.listWaits_eq hgpu

/-- What is queued of a chain is the payload. -/
theorem queued_listAccesses (m : Memory) (packets : List UInt32) :
    (listAccesses m packets).filterMap (Access.queued? m) = packets.flatMap (payload m) := by
  have hpacket : ∀ a, (packetAccesses m a).filterMap (Access.queued? m) = payload m a := by
    intro a
    rw [packetAccesses, List.filterMap_cons_none rfl, List.filterMap_map, payload,
      ← List.filterMap_eq_map]
    rfl
  simp only [listAccesses, List.filterMap_flatMap, hpacket]

/-- The number of words in a chain of packets, headers and payload. -/
def packetWords (m : Memory) (packets : List UInt32) : Nat :=
  (packets.map fun a => 1 + packetCount m a).sum

theorem length_listAccesses (m : Memory) (packets : List UInt32) :
    (listAccesses m packets).length = packetWords m packets := by
  have hpacket : ∀ a, (packetAccesses m a).length = 1 + packetCount m a := by
    intro a
    rw [packetAccesses, List.length_cons, List.length_map, List.length_range, Nat.add_comm]
  simp only [listAccesses, List.length_flatMap, hpacket]
  rfl

end Accesses

/-! ## The plan -/

namespace Channel

variable {c : Channel} {i : ChannelIndex} {m : Memory} {as : List Access} {d : Channel}

/-- The channel when it is through with a packet, and `next` points to the one behind it. -/
def followed (c : Channel) (next : UInt32) : Channel := settle (c.follow next)

theorem followed_listEnd (c : Channel) : c.followed listEnd = c.ended listEnd := rfl

theorem followed_of_ne {next : UInt32} (h : next ≠ listEnd) :
    c.followed next =
      { c.setMadr next with transfer := some (.list (next &&& ramWordMask) .header) } := by
  rw [followed, follow, if_neg (by rw [beq_iff_eq]; exact h)]
  rfl

/-- Where the channel goes from a packet does not depend on its place in the packet. -/
theorem followed_transfer (c : Channel) (transfer : Option Transfer) (next : UInt32) :
    followed { c with transfer } next = c.followed next := by
  unfold followed follow
  split <;> rfl

theorem madr_followed (c : Channel) (next : UInt32) : (c.followed next).madr = next &&& 0xFFFFFF := by
  unfold followed follow
  split <;> rfl

/-- Behind the header of an empty packet comes the next packet. -/
theorem serve_of_empty {a : UInt32} (h : c.access? = some (.header a))
    (hempty : packetCount m a = 0) : c.serve m = c.followed (packetNext m a) := by
  have htransfer : c.transfer = some (.list a .header) := by
    unfold access? at h
    split at h
    · cases h
    · split at h
      · cases h
      · split at h <;> cases h
    · next hlist =>
      cases h
      exact hlist
    · cases h
  have hcount : Word.field (m.ramWord a) 24 8 = 0 := hempty
  rw [serve, pass, htransfer]
  show settle (c.readHeader a (m.ramWord a)) = _
  rw [readHeader, hcount]
  rfl

/-- The plan within a packet: the rest of the payload comes before what comes behind. -/
theorem plan_payload {next : UInt32} {base : UInt32} (n : Nat) : ∀ {c : Channel} {k : Nat},
    c.busy = true → c.transfer = some (.list (place base up (k + 1)) (.payload (n + 1) next)) →
    Plan m i (c.followed next) as d →
    Plan m i c
      (((List.range (n + 1)).map fun j => .payload (place base up (k + j + 1))) ++ as) d := by
  induction n with
  | zero =>
    intro c k hbusy htransfer hrest
    refine .access hbusy (started?_of_transfer htransfer) ?_ ?_
    · rw [access?, htransfer]
    · have hserve : c.serve m = c.followed next := by
        rw [serve, pass, htransfer]
        rfl
      rw [hserve]
      exact hrest
  | succ n ih =>
    intro c k hbusy htransfer hrest
    rw [List.range_succ_eq_map, List.map_cons, List.map_map, List.cons_append]
    refine .access hbusy (started?_of_transfer htransfer) ?_ ?_
    · rw [access?, htransfer]
    · have hplace : (place base up (k + 1) + 4) &&& ramWordMask = place base up (k + 1 + 1) :=
        place_succ (by decide) (k + 1)
      have hserve : c.serve m = { c with
          transfer := some (.list (place base up (k + 1 + 1)) (.payload (n + 1) next)) } := by
        rw [serve, pass, htransfer, ← hplace]
        rfl
      have hplan := ih (c := c.serve m) (k := k + 1) (by rw [hserve]; exact hbusy)
        (by rw [hserve]) (by rw [hserve, followed_transfer]; exact hrest)
      have hshift : ∀ j, k + 1 + j + 1 = k + (j + 1) + 1 := fun j => by omega
      simp only [hshift] at hplan
      exact hplan

/-- The plan of a packet comes before what comes behind it. -/
theorem plan_packet {a : UInt32} (hbusy : c.busy = true) (ha : a &&& ramWordMask = a)
    (htransfer : c.transfer = some (.list a .header))
    (hrest : Plan m i (c.followed (packetNext m a)) as d) :
    Plan m i c (packetAccesses m a ++ as) d := by
  refine .access hbusy (started?_of_transfer htransfer) ?_ ?_
  · rw [access?, htransfer]
  · have hserve : c.serve m = settle (c.readHeader a (m.ramWord a)) := by
      rw [serve, pass, htransfer]
    rw [hserve, readHeader]
    have hcount : packetCount m a = Word.field (m.ramWord a) 24 8 := rfl
    rw [← hcount]
    cases h : packetCount m a with
    | zero => exact hrest
    | succ n =>
      -- the payload begins at the word behind the header
      have hplace : (a + 4) &&& ramWordMask = place a up (0 + 1) := by
        have hnext : (place a up 0 + 4) &&& ramWordMask = place a up (0 + 1) :=
          place_succ (by decide) 0
        rwa [place_zero, ha] at hnext
      rw [hplace]
      let first : Transfer := .list (place a up (0 + 1)) (.payload (n + 1) (packetNext m a))
      have hplan := plan_payload n (c := { c with transfer := some first }) hbusy rfl
        (by rw [followed_transfer]; exact hrest)
      simp only [Nat.zero_add] at hplan
      exact hplan

/-- **The plan of a list transfer**: packet after packet. -/
theorem plan_list {a : UInt32} {packets : List UInt32} (h : PacketList m a packets) :
    ∀ {c : Channel}, c.busy = true → a &&& ramWordMask = a →
      c.transfer = some (.list a .header) →
      Plan m i c (listAccesses m packets) (c.ended listEnd) := by
  induction h with
  | last hend =>
    intro c hbusy ha htransfer
    refine plan_packet hbusy ha htransfer ?_
    rw [hend, followed_listEnd]
    exact .idle c.busy_finish
  | cons hnext hrest ih =>
    intro c hbusy ha htransfer
    refine plan_packet hbusy ha htransfer ?_
    rw [followed_of_ne hnext]
    exact ih hbusy (masked_masked _) rfl

/-- The plan of a channel that will begin with a list transfer. -/
theorem plan_of_list {packets : List UInt32} (hfresh : c.Fresh) (hdevice : c.device = .gpu)
    (hmode : c.syncMode = .linkedList) (hdirection : c.direction = .fromRam)
    (hpackets : PacketList m (c.madr &&& ramWordMask) packets) :
    Plan m i c (listAccesses m packets) (c.ended listEnd) := by
  have hstarted : started? c i = some (c.start (.list (c.madr &&& ramWordMask) .header)) := by
    rw [started?, inFlight, hfresh.idle, latch, hdevice, hmode, hdirection]
    rfl
  have hplan := plan_list (i := i) hpackets ((busy_started hstarted).trans hfresh.busy)
    (masked_masked _) rfl
  rw [ended_of_settings (c.settings_start _)] at hplan
  exact hplan.of_begun hstarted hfresh.busy

end Channel

/-! ## Schedules -/

/-- How far a list transfer, which was to begin in `s` with a chain of packets, has come in `u`,
with a log of what it did. -/
structure ListRun (s u : System) (packets : List UInt32) (log : List BusCycle) : Prop where
  /-- The words that were read are the first ones of the chain. -/
  done : log.map (·.access) = (listAccesses s.memory packets).take log.length
  /-- The words that were queued are the first words of the payload, in the order of the chain. -/
  queued : pushed log <+: packets.flatMap (payload s.memory)
  memory : u.memory = s.memory
  bound : log.length ≤ packetWords s.memory packets
  /-- The channel is busy until all the words are read. -/
  busy : (u.channel 2).busy = decide (log.length < packetWords s.memory packets)
  /-- Then all the payload is queued, the address is the end of the list, the start bits are clear,
  and no more words are read. -/
  finished : log.length = packetWords s.memory packets →
    pushed log = packets.flatMap (payload s.memory) ∧ (u.channel 2).madr = listEnd ∧
      (u.channel 2).busy = false ∧ (u.channel 2).trigger = false ∧ u.cycle? = none
  /-- While the FIFO is full, a step does nothing. -/
  waiting : u.gpu.fifo.isFull = true →
    u.cycle? = none ∧ (u.move .dma).memory = u.memory ∧ (u.move .dma).gpu = u.gpu
  /-- If not, a step reads the header of a packet, or it reads a word of payload and queues it. -/
  moving : log.length < packetWords s.memory packets → u.gpu.fifo.isFull = false →
    ∃ e, u.cycle? = some e ∧ (u.move .dma).memory = u.memory ∧
      ((∃ a ∈ packets, e = ⟨2, .header a, s.memory.ramWord a⟩ ∧ (u.move .dma).gpu = u.gpu) ∨
        (∃ address word, e = ⟨2, .payload address, word⟩ ∧
          (u.move .dma).gpu = u.gpu.queue word))

/-- A bus cycle queues a word at most. -/
theorem BusCycle.size_deliver_le (e : BusCycle) (gpu : Gpu) :
    (e.deliver gpu).fifo.size ≤ gpu.fifo.size + 1 := by
  unfold deliver
  split
  · exact gpu.fifo.size_push_le _
  · exact gpu.fifo.size_push_le _
  · exact Nat.le_succ_of_le (Nat.le_of_eq (congrArg Gpu.CommandFifo.size gpu.readWord_frame.1))
  · exact Nat.le_succ _
  · exact Nat.le_succ _

namespace System

/-- The direction stays as it is, as long as nothing is done with the GPU but steps. -/
theorem dmaDirection_run (moves : List Move) : ∀ {s : System},
    (∀ move ∈ moves, move.isStep = true) →
    (s.run moves).gpu.status.dmaDirection = s.gpu.status.dmaDirection := by
  induction moves with
  | nil => exact fun _ => rfl
  | cons move moves ih =>
    intro s hmoves
    rw [List.forall_mem_cons] at hmoves
    refine (ih hmoves.2).trans ?_
    cases move with
    | dma =>
      rw [gpu_move_dma]
      cases s.cycle? with
      | none => rfl
      | some e =>
        show (e.deliver s.gpu).status.dmaDirection = _
        unfold BusCycle.deliver
        split
        · rfl
        · rfl
        · exact s.gpu.dmaDirection_readWord
        · rfl
        · rfl
    | gpu operation =>
      cases operation with
      | step => exact s.gpu.dmaDirection_step
      | _ => cases hmoves.1
    | dpcr value => cases hmoves.1

/-- **List transfers** queue all the payload of their packets, one word after the other, and none
while the FIFO is full, whatever the order of steps. -/
theorem run_list {s : System} {packets : List UInt32} (moves : List Move)
    (hreachable : Reachable s.dma) (hfresh : (s.channel 2).Fresh)
    (hmode : (s.channel 2).syncMode = .linkedList) (hdirection : (s.channel 2).direction = .fromRam)
    (hpackets : PacketList s.memory ((s.channel 2).madr &&& ramWordMask) packets)
    (hgpu : s.gpu.status.dmaDirection = 2) (halone : s.Alone 2)
    (hmoves : ∀ move ∈ moves, move.isStep = true) :
    ListRun s (s.run moves) packets (s.log moves) := by
  let as : List Access := listAccesses s.memory packets
  have hlength : as.length = packetWords s.memory packets := length_listAccesses _ _
  have hplan : Plan s.memory 2 (s.channel 2) as ((s.channel 2).ended listEnd) :=
    Channel.plan_of_list hfresh (hreachable.sound 2).device hmode hdirection hpackets
  have hrun := run_alone halone (fun move h => Move.keepsDpcr_of_isStep (hmoves move h)) hplan
    (reads_listAccesses _ _)
  have hwaits : ∀ a ∈ as, (s.channel 2).waitsFor a (s.run moves).gpu =
      (s.run moves).gpu.fifo.isFull := fun a ha =>
    waitsFor_of_mem_listAccesses _ ((dmaDirection_run moves hmoves).trans hgpu) ha
  have hmemory : (s.run moves).memory = s.memory := by
    rw [memory_run]
    refine stored_of_reads fun e he => ?_
    obtain ⟨k, -, hk⟩ := hrun.getElem?_of_mem he
    exact stores_of_mem_listAccesses (List.mem_of_getElem? hk)
  have hqueued : pushed (s.log moves) =
      (as.take (s.log moves).length).filterMap (Access.queued? s.memory) := by
    rw [pushed_eq fun e he => (hrun.words e he).2, hrun.done]
  generalize s.run moves = u at *
  generalize s.log moves = log at *
  refine ⟨hrun.done, ?_, hmemory, hlength ▸ hrun.bound, hlength ▸ hrun.busy, ?_, ?_, ?_⟩
  · rw [hqueued, ← queued_listAccesses]
    exact (List.take_prefix _ as).filterMap _
  · intro hall
    obtain ⟨hend, hfree⟩ := hrun.finished (hall.trans hlength.symm)
    rw [hend, hqueued, hall, ← hlength, List.take_length]
    exact ⟨queued_listAccesses _ _, rfl, Channel.busy_finish _, Channel.trigger_finish _,
      cycle?_of_free hfree⟩
  · intro hfull
    have hcycle : u.cycle? = none := by
      rcases Nat.lt_or_ge log.length as.length with hlt | hge
      · have hnth := List.getElem?_eq_getElem hlt
        exact (hrun.waiting _ hnth ((hwaits _ (List.mem_of_getElem? hnth)).trans hfull)).1
      · exact cycle?_of_free (hrun.finished (Nat.le_antisymm hrun.bound hge)).2
    exact ⟨hcycle, move_of_idle hcycle⟩
  · intro hlt hroom
    rw [← hlength] at hlt
    have hnth := List.getElem?_eq_getElem hlt
    have ha := List.mem_of_getElem? hnth
    have hcycle := hrun.moving _ hnth ((hwaits _ ha).trans hroom)
    rcases of_mem_listAccesses ha with ⟨p, hp, heq⟩ | ⟨address, heq⟩
    · rw [heq, Access.word, hmemory] at hcycle
      obtain ⟨hstored, hdelivered⟩ := move_of_cycle hcycle
      exact ⟨_, hcycle, hstored, .inl ⟨p, hp, rfl, hdelivered⟩⟩
    · rw [heq] at hcycle
      obtain ⟨hstored, hdelivered⟩ := move_of_cycle hcycle
      exact ⟨_, hcycle, hstored, .inr ⟨address, _, rfl, hdelivered⟩⟩

/-- A step of the controller takes the room of a word at most, and a step of the GPU takes none. -/
theorem size_run_le (moves : List Move) : ∀ {s : System}, (∀ move ∈ moves, move.isStep = true) →
    (s.run moves).gpu.fifo.size ≤ s.gpu.fifo.size + moves.countP Move.isDma := by
  induction moves with
  | nil => exact fun _ => Nat.le_refl _
  | cons move moves ih =>
    intro s hmoves
    rw [List.forall_mem_cons] at hmoves
    refine Nat.le_trans (ih hmoves.2) ?_
    rw [List.countP_cons]
    cases move with
    | dma =>
      have hle : (s.move .dma).gpu.fifo.size ≤ s.gpu.fifo.size + 1 := by
        rw [gpu_move_dma]
        cases s.cycle? with
        | none => exact Nat.le_succ _
        | some e => exact e.size_deliver_le s.gpu
      rw [Move.isDma, if_pos rfl]
      omega
    | gpu operation =>
      cases operation with
      | step =>
        have hle := s.gpu.size_step_le
        exact Nat.add_le_add_right hle _
      | _ => cases hmoves.1
    | dpcr value => cases hmoves.1

/-- **While the FIFO cannot fill**, every step of the controller reads a word of the chain. -/
theorem length_log_list {s : System} {packets : List UInt32} {moves : List Move}
    (hreachable : Reachable s.dma) (hfresh : (s.channel 2).Fresh)
    (hmode : (s.channel 2).syncMode = .linkedList) (hdirection : (s.channel 2).direction = .fromRam)
    (hpackets : PacketList s.memory ((s.channel 2).madr &&& ramWordMask) packets)
    (hgpu : s.gpu.status.dmaDirection = 2) (halone : s.Alone 2)
    (hmoves : ∀ move ∈ moves, move.isStep = true)
    (hroom : s.gpu.fifo.size + moves.countP Move.isDma < Gpu.fifoCapacity) :
    (s.log moves).length = min (moves.countP Move.isDma) (packetWords s.memory packets) := by
  rw [← length_listAccesses]
  refine length_log halone (fun move h => Move.keepsDpcr_of_isStep (hmoves move h))
    (Channel.plan_of_list hfresh (hreachable.sound 2).device hmode hdirection hpackets)
    (reads_listAccesses _ _) ?_
  intro before hbefore a ha
  have hsteps : ∀ move ∈ before, move.isStep = true := fun move h => hmoves move (hbefore.subset h)
  rw [waitsFor_of_mem_listAccesses _ ((dmaDirection_run before hsteps).trans hgpu) ha]
  have hsize := size_run_le before (s := s) hsteps
  have hcount : before.countP Move.isDma ≤ moves.countP Move.isDma := hbefore.sublist.countP_le
  exact beq_false_of_ne (by omega)

/-- A list of one packet with one word of payload. -/
def upload : System :=
  ⟨(enabling 0x07654B21).request gpuChannel 0x100 0 0x01000401,
    Memory.blank.setRamWord 0x100 0x01FFFFFF, ({} : Gpu).control 0x04000002⟩

/-- A list of three packets, which goes up and down RAM: two words of a command to fill an area,
none, and the third one. -/
def chained : System :=
  let words : List (UInt32 × UInt32) :=
    [(0x100, 0x02000200), (0x104, 0x020000FF), (0x108, 0x00080010),
      (0x200, 0x00000180), (0x180, 0x01FFFFFF), (0x184, 0x00200040)]
  { upload with memory := words.foldl (fun memory w => memory.setRamWord w.1 w.2) .blank }

theorem ramWord_chained :
    chained.memory.ramWord 0x100 = 0x02000200 ∧ chained.memory.ramWord 0x104 = 0x020000FF ∧
    chained.memory.ramWord 0x108 = 0x00080010 ∧ chained.memory.ramWord 0x200 = 0x00000180 ∧
    chained.memory.ramWord 0x180 = 0x01FFFFFF ∧ chained.memory.ramWord 0x184 = 0x00200040 := by
  simp only [chained, List.foldl_cons, List.foldl_nil, Memory.ramWord_setRamWord]
  exact ⟨rfl, rfl, rfl, rfl, rfl, rfl⟩

theorem packetList_chained :
    PacketList chained.memory ((chained.channel 2).madr &&& ramWordMask) [0x100, 0x200, 0x180] := by
  obtain ⟨hfirst, -, -, hsecond, hthird, -⟩ := ramWord_chained
  have hnext : packetNext chained.memory 0x100 = 0x200 := by rw [packetNext, hfirst]; rfl
  have hback : packetNext chained.memory 0x200 = 0x180 := by rw [packetNext, hsecond]; rfl
  have hend : packetNext chained.memory 0x180 = listEnd := by rw [packetNext, hthird]; rfl
  have hplace : (chained.channel 2).madr &&& ramWordMask = 0x100 := by decide
  rw [hplace]
  refine .cons (hnext ▸ by decide) ?_
  rw [hnext]
  refine .cons (a := 0x200) (hback ▸ by decide) ?_
  rw [hback]
  exact .last hend

theorem payload_chained :
    [0x100, 0x200, 0x180].flatMap (payload chained.memory) =
      [0x020000FF, 0x00080010, 0x00200040] ∧
    packetWords chained.memory [0x100, 0x200, 0x180] = 6 := by
  obtain ⟨hfirst, hfill, hcorner, hsecond, hthird, hsize⟩ := ramWord_chained
  have htwo : packetCount chained.memory 0x100 = 2 := by rw [packetCount, hfirst]; rfl
  have hnone : packetCount chained.memory 0x200 = 0 := by rw [packetCount, hsecond]; rfl
  have hone : packetCount chained.memory 0x180 = 1 := by rw [packetCount, hthird]; rfl
  have hplaces : place 0x100 up 1 = 0x104 ∧ place 0x100 up 2 = 0x108 ∧ place 0x180 up 1 = 0x184 := by
    decide
  constructor
  · simp [payload, htwo, hnone, hone, List.range_succ, hplaces, hfill, hcorner, hsize]
  · simp [packetWords, htwo, hnone, hone]

/-- All three packets are read, and the words of the command are queued. -/
theorem run_list_chained :
    let moves : List Move :=
      [.dma, .gpu .step, .dma, .dma, .gpu .step, .dma, .dma, .gpu .step, .dma]
    pushed (chained.log moves) = [0x020000FF, 0x00080010, 0x00200040] ∧
      ((chained.run moves).channel 2).madr = listEnd ∧
      ((chained.run moves).channel 2).busy = false ∧
      (chained.run moves).memory = chained.memory := by
  intro moves
  have hreachable : Reachable chained.dma := (Reachable.enabling _).request 2 _ _ _
  have hfresh : (chained.channel 2).Fresh := ⟨by decide, by decide⟩
  have hmoves : ∀ move ∈ moves, move.isStep = true := by decide
  have hrun := run_list (s := chained) moves hreachable hfresh (by decide) (by decide)
    packetList_chained (by decide) (by decide) hmoves
  have hall : (chained.log moves).length = packetWords chained.memory [0x100, 0x200, 0x180] := by
    rw [length_log_list hreachable hfresh (by decide) (by decide) packetList_chained (by decide)
      (by decide) hmoves (by decide), payload_chained.2]
    rfl
  obtain ⟨hpushed, hmadr, hbusy, -, -⟩ := hrun.finished hall
  exact ⟨hpushed.trans payload_chained.1, hmadr, hbusy, hrun.memory⟩

end System

end PlayStation.Dma

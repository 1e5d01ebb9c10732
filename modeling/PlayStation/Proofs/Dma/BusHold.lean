/-
  How long DMA can HOLD THE BUS.

  After a step in which a channel moved a word and has more, the controller keeps the bus
  (`Dma.accessing`), and the processor has to wait.  Nothing else touches the controller then, so
  the same channel has the bus in the next step (`select_of_busy`): the bus is held by one
  channel and one transfer, from word to word, until that channel waits or is through.

  1. **A hold runs along the plan** of that channel (`Holds`): every step that keeps the bus takes
     one access off the plan (`Holds.move`).  So the bus is free again after as many steps as there
     are accesses on it.

  2. **A plan is there, and is short**, for a block transfer (`plan_of_block`) and for a list from
     any place in a packet on, provided that the chain of packets ends (`plan_of_place`).  A chain
     that ends goes through no packet twice, so it is bounded by the size of RAM
     (`PacketList.length_le`).

  3. **A chain that does not end** keeps the bus as long as the GPU is ready (`Endless.move`), and
     no longer (`Endless.released`).
-/
import Mathlib.Algebra.Group.Action.Defs
import Mathlib.Algebra.Order.BigOperators.Group.List
import Mathlib.Algebra.Order.Ring.Nat
import Mathlib.Data.List.Nodup
import Mathlib.Data.List.Perm.Subperm
import PlayStation.Proofs.Dma.Bounds
import PlayStation.Proofs.Dma.ListTransfer

namespace PlayStation.Dma

/-! ## Keeping the bus -/

theorem accessing_record (dma : Dma) (i : ChannelIndex) (progress : Progress) (c : Channel) :
    (dma.record i progress c).accessing = true ↔ dma.accessing = true ∨ progress = .busy := by
  cases progress with
  | waiting => exact ⟨.inl, fun h => h.resolve_right nofun⟩
  | busy => exact ⟨fun _ => .inr rfl, fun _ => rfl⟩
  | complete => exact ⟨.inl, fun h => h.resolve_right nofun⟩

namespace System

variable {s : System} {i : ChannelIndex}

/-- **A step keeps the bus** when a channel has it, need not wait, and moves a word that is not its
last one. -/
theorem accessing_move_iff : (s.move .dma).dma.accessing = true ↔
    ∃ i c, s.dma.select = some i ∧ started? (s.channel i) i = some c ∧ c.waits s.gpu = false ∧
      (c.pass s.memory).1 = .busy := by
  have hselect : Dma.select { s.dma with accessing := false } = s.dma.select := rfl
  unfold move Dma.step
  simp only [hselect]
  cases hbus : s.dma.select with
  | none =>
    refine iff_of_false nofun ?_
    rintro ⟨i, c, hi, -⟩
    cases hi
  | some i =>
    show (runChannel { s.dma with accessing := false } i s.memory s.gpu).1.accessing = true ↔ _
    have hown : Dma.channel { s.dma with accessing := false } i = s.channel i := rfl
    unfold runChannel
    rw [hown]
    cases hstarted : started? (s.channel i) i with
    | none =>
      refine iff_of_false nofun ?_
      rintro ⟨j, c, hj, hc, -⟩
      obtain rfl := Option.some.inj hj
      rw [hstarted] at hc
      cases hc
    | some c =>
      simp only [c.advance_eq i]
      rw [accessing_record]
      constructor
      · rintro (hbefore | hbusy)
        · cases hbefore
        · cases hwaits : c.waits s.gpu with
          | true =>
            rw [hwaits] at hbusy
            cases hbusy
          | false =>
            rw [hwaits] at hbusy
            exact ⟨i, c, rfl, hstarted, hwaits, hbusy⟩
      · rintro ⟨j, d, hj, hd, hwaits, hbusy⟩
        obtain rfl := Option.some.inj hj
        obtain rfl : c = d := Option.some.inj (hstarted.symm.trans hd)
        rw [hwaits]
        exact .inr hbusy

/-- What a step leaves of the channel that keeps the bus: it has it again. -/
theorem select_of_busy {c : Channel} (hselect : s.dma.select = some i)
    (hstarted : started? (s.channel i) i = some c) (hwaits : c.waits s.gpu = false)
    (hbusy : (c.pass s.memory).1 = .busy) :
    (s.move .dma).channel i = (c.pass s.memory).2 ∧ (s.move .dma).dma.select = some i := by
  have hmore : (c.pass s.memory).1 ≠ .complete := by
    rw [hbusy]
    exact nofun
  have hown : (s.move .dma).channel i = (c.pass s.memory).2 := by
    rw [channel_move_dma, if_pos hselect, (Channel.step_of_ready hstarted hwaits).2,
      Channel.serve_of_more hmore]
  refine ⟨hown, ?_⟩
  rw [← hselect]
  apply select_congr s.dpcr_move_dma
  intro j
  have hsame : ((s.move .dma).channel j).busy = (s.channel j).busy := by
    by_cases hij : i = j
    · subst hij
      obtain ⟨madr, transfer, hpass⟩ := c.pass_eq s.memory
      rw [hown, hpass]
      show c.busy = _
      exact Channel.busy_started hstarted
    · rw [channel_move_dma, hselect, if_neg fun heq => hij (Option.some.inj heq)]
  show ((s.move .dma).dma.dpcr.enabled j && ((s.move .dma).channel j).busy) =
    (s.dma.dpcr.enabled j && (s.channel j).busy)
  rw [s.dpcr_move_dma, hsame]

end System

/-! ## Along a plan -/

/-- A plan depends on no more of the memory than the headers on it. -/
theorem Plan.of_headers {m n : Memory} {i : ChannelIndex} {c d : Channel} {as : List Access}
    (h : Plan m i c as d)
    (hsame : ∀ address, .header address ∈ as → m.ramWord address = n.ramWord address) :
    Plan n i c as d := by
  induction h with
  | idle hbusy => exact .idle hbusy
  | @access c c' d a as hbusy hstarted haccess _ ih =>
    refine .access hbusy hstarted haccess ?_
    have hserve : c'.serve n = c'.serve m := by
      apply Channel.serve_congr
      intro address hheader
      obtain rfl : a = .header address := Option.some.inj (haccess.symm.trans hheader)
      exact (hsame address List.mem_cons_self).symm
    rw [hserve]
    exact ih fun address hmem => hsame address (List.mem_cons_of_mem _ hmem)

/-- The accesses of one transfer: none of them stores, or none of them is a list's. -/
def OfOneKind (as : List Access) : Prop :=
  (∀ a ∈ as, a.stores = false) ∨ ∀ a ∈ as, a.isList = false

/-- A channel has the bus, and what it is going to do with it. -/
structure Holds (s : System) (i : ChannelIndex) (as : List Access) : Prop where
  select : s.dma.select = some i
  plan : ∃ d, Plan s.memory i (s.channel i) as d
  kind : OfOneKind as

/-- **A step that keeps the bus** takes one access off the plan. -/
theorem Holds.move {s : System} {i : ChannelIndex} {as : List Access} (h : Holds s i as)
    (haccessing : (s.move .dma).dma.accessing = true) :
    ∃ a rest, as = a :: rest ∧ Holds (s.move .dma) i rest := by
  obtain ⟨j, c, hj, hstarted, hwaits, hbusy⟩ := System.accessing_move_iff.1 haccessing
  obtain rfl : i = j := Option.some.inj (h.select.symm.trans hj)
  obtain ⟨hown, hselect⟩ := System.select_of_busy hj hstarted hwaits hbusy
  obtain ⟨d, hplan⟩ := h.plan
  obtain ⟨c', a, rest, hbegun, haccess, rfl, hrest⟩ :=
    hplan.next (System.enabled_and_busy hj).2
  obtain rfl : c' = c := Option.some.inj (hbegun.symm.trans hstarted)
  have hmore : (c'.pass s.memory).1 ≠ .complete := by
    rw [hbusy]
    exact nofun
  rw [Channel.serve_of_more hmore, ← hown] at hrest
  -- memory feels the access, but the rest of the plan does not
  have hcycle : s.cycle? = some ⟨i, a, a.word s.memory s.gpu⟩ := by
    rw [System.cycle?, h.select]
    show (s.channel i).cycle? i s.memory s.gpu = _
    rw [(Channel.step_of_ready hstarted hwaits).1, haccess]
    rfl
  have hmemory := (System.move_of_cycle hcycle).1
  refine ⟨a, rest, rfl, hselect, ⟨d, ?_⟩, ?_⟩
  · rcases h.kind with hreads | hblock
    · have hstore : BusCycle.store ⟨i, a, a.word s.memory s.gpu⟩ s.memory = s.memory :=
        if_neg (by rw [hreads a List.mem_cons_self]; exact Bool.false_ne_true)
      rw [hmemory, hstore]
      exact hrest
    · refine hrest.of_headers ?_
      intro address hheader
      have hlist := hblock _ (List.mem_cons_of_mem _ hheader)
      cases hlist
  · rcases h.kind with hreads | hblock
    · exact .inl fun b hb => hreads b (List.mem_cons_of_mem _ hb)
    · exact .inr fun b hb => hblock b (List.mem_cons_of_mem _ hb)

/-! ## Chains that end -/

section Chains

variable {m : Memory} {a : UInt32} {packets : List UInt32}

/-- From an address there is one chain at most. -/
theorem PacketList.unique (h : PacketList m a packets) :
    ∀ {others : List UInt32}, PacketList m a others → packets = others := by
  induction h with
  | last hend =>
    intro others hothers
    cases hothers with
    | last _ => rfl
    | cons hnext _ => exact absurd hend hnext
  | cons hnext hrest ih =>
    intro others hothers
    cases hothers with
    | last hend => exact absurd hend hnext
    | cons _ hrest' => rw [ih hrest']

/-- A chain that closes on its first packet does not end. -/
theorem not_packetList_of_loop (hnext : packetNext m a ≠ listEnd)
    (hloop : packetNext m a &&& ramWordMask = a) : ¬∃ packets, PacketList m a packets := by
  rintro ⟨packets, h⟩
  cases h with
  | last hend => exact hnext hend
  | @cons _ rest _ hrest =>
    rw [hloop] at hrest
    have hself : rest = a :: rest := hrest.unique (.cons hnext (hloop.symm ▸ hrest))
    exact List.ne_cons_self hself

/-- From each of its packets on, the chain ends. -/
theorem PacketList.of_mem (h : PacketList m a packets) : ∀ {x : UInt32}, x ∈ packets →
    ∃ rest, PacketList m x rest ∧ rest.length ≤ packets.length := by
  induction h with
  | last hend =>
    intro x hx
    obtain rfl := List.mem_singleton.1 hx
    exact ⟨[x], .last hend, Nat.le_refl _⟩
  | @cons a rest hnext hrest ih =>
    intro x hx
    rcases List.mem_cons.1 hx with rfl | hlater
    · exact ⟨x :: rest, .cons hnext hrest, Nat.le_refl _⟩
    · obtain ⟨tail, htail, hle⟩ := ih hlater
      refine ⟨tail, htail, ?_⟩
      rw [List.length_cons]
      omega

/-- **A chain that ends goes through no packet twice.** -/
theorem PacketList.nodup (h : PacketList m a packets) : packets.Nodup := by
  induction h with
  | last hend => exact List.nodup_singleton _
  | @cons a rest hnext hrest ih =>
    refine List.nodup_cons.2 ⟨fun hagain => ?_, ih⟩
    obtain ⟨tail, htail, hle⟩ := hrest.of_mem hagain
    have hwhole : a :: rest = tail := PacketList.unique (.cons hnext hrest) htail
    rw [← hwhole, List.length_cons] at hle
    omega

/-- Its packets lie in RAM, if the first one does. -/
theorem PacketList.inRam (h : PacketList m a packets) (ha : InRam a) :
    ∀ x ∈ packets, InRam x := by
  induction h with
  | last hend =>
    intro x hx
    obtain rfl := List.mem_singleton.1 hx
    exact ha
  | cons hnext hrest ih =>
    intro x hx
    rcases List.mem_cons.1 hx with rfl | hlater
    · exact ha
    · exact ih (inRam_masked _) x hlater

/-- So there are no more packets than words of RAM. -/
theorem PacketList.length_le (h : PacketList m a packets) (ha : InRam a) :
    packets.length ≤ 0x80000 := by
  have hwords : (packets.map fun x => x.toNat / 4).Nodup := by
    refine List.Nodup.map_on ?_ h.nodup
    intro x hx y hy hxy
    have hxram := h.inRam ha x hx
    have hyram := h.inRam ha y hy
    have hxmod := hxram.aligned
    have hymod := hyram.aligned
    exact UInt32.toNat_inj.1 (by omega)
  have hsub : (packets.map fun x => x.toNat / 4) ⊆ List.range 0x80000 := by
    intro k hk
    obtain ⟨x, hx, rfl⟩ := List.mem_map.1 hk
    have hlt := (h.inRam ha x hx).lt
    exact List.mem_range.2 (by omega)
  have hle := (hwords.subperm hsub).length_le
  rwa [List.length_map, List.length_range] at hle

theorem packetCount_lt (m : Memory) (a : UInt32) : packetCount m a < 0x100 :=
  Nat.mod_lt _ (by decide)

/-- A chain has not more than 2^27 words to move. -/
theorem PacketList.words_le (h : PacketList m a packets) (ha : InRam a) :
    packetWords m packets ≤ 0x8000000 := by
  have hpacket : ∀ words ∈ packets.map (fun x => 1 + packetCount m x), words ≤ 0x100 := by
    intro words hwords
    obtain ⟨x, -, rfl⟩ := List.mem_map.1 hwords
    have hlt := packetCount_lt m x
    omega
  have hsum := List.sum_le_card_nsmul _ _ hpacket
  have hlength := h.length_le ha
  rw [List.length_map, smul_eq_mul] at hsum
  unfold packetWords
  omega

end Chains

/-- From a place in a packet on, the chain of packets ends. -/
def ListPhase.Ends (m : Memory) (address : UInt32) : ListPhase → Prop
  | .header => ∃ packets, PacketList m address packets
  | .payload _ next => next = listEnd ∨ ∃ packets, PacketList m (next &&& ramWordMask) packets

/-! ## Plans that are short -/

/-- More words than any transfer has to move. -/
def longest : Nat := 0x100000000

namespace Channel

variable {c : Channel} {i : ChannelIndex} {m : Memory}

/-- **A block transfer** has a plan, and not more than 2^32 words to move. -/
theorem plan_of_block {b : Block} (hbusy : c.busy = true) (htransfer : c.transfer = some (.block b))
    (hb : b.InBounds) :
    ∃ as d, Plan m i c as d ∧ OfOneKind as ∧ as.length ≤ longest := by
  have hremaining := hb.remaining
  have hsize := hb.size
  have hblocks := hb.blocks
  have hstep : b.step.toNat % 4 = 0 := by
    rcases hb.step with hup | hdown
    · rw [hup]
      decide
    · rw [hdown]
      decide
  have haddress : b.address &&& ramWordMask = b.address := by
    have haligned := hb.address.aligned
    have hlt := hb.address.lt
    rw [← UInt32.toNat_inj, toNat_masked, Memory.wordOffset_eq]
    omega
  have hvalid : b.Valid := ⟨hremaining.1, hremaining.2, hblocks.1, haddress, hstep⟩
  refine ⟨_, _, plan_block (m := m) (i := i) b.left hbusy htransfer hvalid rfl, .inr ?_, ?_⟩
  · intro a ha
    obtain ⟨k, -, rfl⟩ := List.mem_map.1 ha
    unfold blockAccess gpuAccess
    split
    · rfl
    · cases c.direction <;> rfl
  · have hall : (b.blocks - 1) * b.size ≤ 0xFFFF * 0x10000 :=
      Nat.mul_le_mul (by omega) hsize
    rw [List.length_map, List.length_range, Block.left, longest]
    omega

/-- Behind a packet of a list, the plan goes on with the rest of the chain, if that ends. -/
theorem plan_followed {next : UInt32} (hbusy : c.busy = true)
    (hends : next = listEnd ∨ ∃ packets, PacketList m (next &&& ramWordMask) packets) :
    ∃ as d, Plan m i (c.followed next) as d ∧ (∀ a ∈ as, a.stores = false) ∧
      as.length ≤ 0x8000000 := by
  by_cases hend : next = listEnd
  · rw [hend, followed_listEnd]
    exact ⟨[], _, .idle c.busy_finish, fun a ha => absurd ha List.not_mem_nil, Nat.zero_le _⟩
  · obtain ⟨packets, hpackets⟩ := hends.resolve_left hend
    rw [followed_of_ne hend]
    refine ⟨_, _, plan_list hpackets hbusy (masked_masked _) rfl,
      fun a ha => stores_of_mem_listAccesses ha, ?_⟩
    rw [length_listAccesses]
    exact hpackets.words_le (inRam_masked _)

/-- **A list transfer** has a plan from any place on, if its chain ends there. -/
theorem plan_of_place {address : UInt32} {phase : ListPhase} (hbusy : c.busy = true)
    (htransfer : c.transfer = some (.list address phase)) (ha : InRam address)
    (hphase : phase.InBounds) (hends : phase.Ends m address) :
    ∃ as d, Plan m i c as d ∧ OfOneKind as ∧ as.length ≤ longest := by
  have haddress : address &&& ramWordMask = address := by
    have haligned := ha.aligned
    have hlt := ha.lt
    rw [← UInt32.toNat_inj, toNat_masked, Memory.wordOffset_eq]
    omega
  cases phase with
  | header =>
    obtain ⟨packets, hpackets⟩ := hends
    have hle := hpackets.words_le ha
    refine ⟨_, _, plan_list hpackets hbusy haddress htransfer,
      .inl fun a ha => stores_of_mem_listAccesses ha, ?_⟩
    rw [length_listAccesses, longest]
    omega
  | payload remaining next =>
    obtain ⟨hlow, hhigh, -⟩ := hphase
    obtain ⟨n, rfl⟩ : ∃ n, remaining = n + 1 := ⟨remaining - 1, by omega⟩
    obtain ⟨as, d, hplan, hreads, hle⟩ := plan_followed (c := c) (i := i) hbusy hends
    -- the place is one word behind the word below it
    have hplace : address = place (address - 4) up (0 + 1) := by
      have hnext : place (address - 4) up 1 = (address - 4 + 4) &&& ramWordMask := by
        rw [← place_succ (by decide), place_zero, masked_add _ (by decide)]
        rfl
      rw [hnext, UInt32.sub_add_cancel, haddress]
    rw [hplace] at htransfer
    refine ⟨_, _, plan_payload n hbusy htransfer hplan, .inl ?_, ?_⟩
    · intro a ha
      rcases List.mem_append.1 ha with hpayload | hlater
      · obtain ⟨k, -, rfl⟩ := List.mem_map.1 hpayload
        rfl
      · exact hreads a hlater
    · rw [List.length_append, List.length_map, List.length_range, longest]
      omega

end Channel

/-! ## Releasing the bus -/

/-- If a list has the bus, or is about to begin, its chain of packets ends. -/
def System.ListEnds (s : System) : Prop :=
  ∀ i c address phase, s.dma.select = some i → started? (s.channel i) i = some c →
    c.transfer = some (.list address phase) → phase.Ends s.memory address

/-- **Who has the bus has a plan**, unless the request is refused or the list does not end. -/
theorem System.holds_of_select {s : System} {i : ChannelIndex} {c : Channel}
    (hreachable : Reachable s.dma) (hends : s.ListEnds) (hselect : s.dma.select = some i)
    (hstarted : started? (s.channel i) i = some c) :
    ∃ as, Holds s i as ∧ as.length ≤ longest := by
  have hbusy : (s.channel i).busy = true := (enabled_and_busy hselect).2
  have hbounds := (hreachable.channel_inBounds i).started (hreachable.sound i) hstarted
  have hcbusy : c.busy = true := (Channel.busy_started hstarted).trans hbusy
  have hplan : ∃ as d, Plan s.memory i c as d ∧ OfOneKind as ∧ as.length ≤ longest := by
    cases htransfer : c.transfer with
    | none =>
      rcases Channel.started?_eq_some hstarted with ⟨hflight, rfl⟩ | ⟨-, transfer, -, rfl⟩
      · rw [Channel.inFlight, htransfer] at hflight
        cases hflight
      · cases htransfer
    | some transfer =>
      have hin := hbounds transfer htransfer
      cases transfer with
      | block b => exact Channel.plan_of_block hcbusy htransfer hin.2
      | list address phase =>
        exact Channel.plan_of_place hcbusy htransfer hin.2.1 hin.2.2
          (hends i c address phase hselect hstarted htransfer)
  obtain ⟨as, d, hplan, hkind, hle⟩ := hplan
  exact ⟨as, ⟨hselect, ⟨d, hplan.of_begun hstarted hbusy⟩, hkind⟩, hle⟩

/-! ## A chain without end -/

/-- A list has the bus, or is about to begin, and its chain of packets does not end. -/
structure Endless (s : System) : Prop where
  select : s.dma.select = some gpuChannel
  chain : ∃ c address phase, started? (s.channel gpuChannel) gpuChannel = some c ∧
    c.transfer = some (.list address phase) ∧ ¬phase.Ends s.memory address

/-- A list that does not end is the GPU's. -/
theorem Endless.of_not_listEnds {s : System} (hreachable : Reachable s.dma) (h : ¬s.ListEnds) :
    Endless s := by
  unfold System.ListEnds at h
  push Not at h
  obtain ⟨i, c, address, phase, hselect, hstarted, htransfer, hends⟩ := h
  have hbounds := (hreachable.channel_inBounds i).started (hreachable.sound i) hstarted
  obtain rfl : i = gpuChannel := (hbounds _ htransfer).1
  exact ⟨hselect, c, address, phase, hstarted, htransfer, hends⟩

/-- Where the chain does not end, an access leads on. -/
theorem Channel.pass_of_not_ends {c : Channel} {m : Memory} {address : UInt32} {phase : ListPhase}
    (htransfer : c.transfer = some (.list address phase)) (hends : ¬phase.Ends m address) :
    (c.pass m).1 = .busy ∧ ∃ address' phase',
      (c.pass m).2.transfer = some (.list address' phase') ∧ ¬phase'.Ends m address' := by
  have hfollow : ∀ next, next ≠ listEnd →
      (¬∃ packets, PacketList m (next &&& ramWordMask) packets) →
      (c.follow next).1 = .busy ∧ ∃ address' phase',
        (c.follow next).2.transfer = some (.list address' phase') ∧ ¬phase'.Ends m address' := by
    intro next hnext hchain
    rw [follow, if_neg (by rw [beq_iff_eq]; exact hnext)]
    exact ⟨rfl, _, .header, rfl, hchain⟩
  rw [pass, htransfer]
  cases phase with
  | header =>
    have hnext : packetNext m address ≠ listEnd := fun hend => hends ⟨[address], .last hend⟩
    have hchain : ¬∃ packets, PacketList m (packetNext m address &&& ramWordMask) packets := by
      rintro ⟨packets, hpackets⟩
      exact hends ⟨address :: packets, .cons hnext hpackets⟩
    simp only [readHeader]
    split
    · exact hfollow _ hnext hchain
    · refine ⟨rfl, _, .payload _ _, rfl, ?_⟩
      rintro (hend | hpackets)
      · exact hnext hend
      · exact hchain hpackets
  | payload remaining next =>
    simp only [passPayload]
    split
    · exact hfollow next (fun hend => hends (.inl hend)) fun hpackets => hends (.inr hpackets)
    · exact ⟨rfl, _, .payload _ next, rfl, hends⟩

/-- It releases the bus with a step in front of which the GPU is not ready. -/
theorem Endless.released {s : System} (h : Endless s) (hwaits : Channel.listWaits s.gpu = true) :
    (s.move .dma).dma.accessing = false := by
  obtain ⟨c, address, phase, hstarted, htransfer, -⟩ := h.chain
  refine eq_false_of_ne_true fun haccessing => ?_
  obtain ⟨i, d, hselect, hbegun, hready, -⟩ := System.accessing_move_iff.1 haccessing
  obtain rfl : i = gpuChannel := Option.some.inj (hselect.symm.trans h.select)
  obtain rfl : d = c := Option.some.inj (hbegun.symm.trans hstarted)
  rw [Channel.waits, htransfer] at hready
  exact Bool.false_ne_true (hready.symm.trans hwaits)

/-- **A chain without end** keeps the bus with every step in front of which the GPU is ready. -/
theorem Endless.move {s : System} (h : Endless s) (hready : Channel.listWaits s.gpu = false) :
    (s.move .dma).dma.accessing = true ∧ Endless (s.move .dma) := by
  obtain ⟨c, address, phase, hstarted, htransfer, hends⟩ := h.chain
  have hwaits : c.waits s.gpu = false := by
    rw [Channel.waits, htransfer]
    exact hready
  obtain ⟨hbusy, address', phase', hnext, hends'⟩ := Channel.pass_of_not_ends htransfer hends
  obtain ⟨hown, hselect⟩ := System.select_of_busy h.select hstarted hwaits hbusy
  have hmemory : (s.move .dma).memory = s.memory := by
    rw [System.memory_move_dma, System.cycle?, h.select]
    show (((s.channel gpuChannel).cycle? gpuChannel s.memory s.gpu).map _).getD _ = _
    rw [(Channel.step_of_ready hstarted hwaits).1, Channel.access?, htransfer]
    cases phase <;> rfl
  refine ⟨System.accessing_move_iff.2 ⟨_, c, h.select, hstarted, hwaits, hbusy⟩, hselect, ?_⟩
  refine ⟨(c.pass s.memory).2, address', phase', ?_, hnext, ?_⟩
  · rw [hown]
    exact Channel.started?_of_transfer hnext
  · rw [hmemory]
    exact hends'

end PlayStation.Dma

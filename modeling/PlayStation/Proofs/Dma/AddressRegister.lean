/-
  The ADDRESS REGISTER of a channel, beside a transfer under way.

  Software can read how far a transfer has come.  In a block transfer the register is the address
  of the next word, and so it is in a list transfer in front of a header.  But while the payload of
  a packet goes by, nobody writes the register: it still names the header, and lags as many words
  behind as the packet has given since, the header included (`madr_stale`).

  1. **The lag** (`Channel.Lags`) is a statement about the channel and the accesses that it has
     made.  What begins satisfies it (`Lags.started`), and an access keeps it (`Lags.pass`): within
     a packet the lag grows by a word, and at the end the register is written with the next header.

  2. **Any steps**, each beside any memory and any GPU, keep it, by induction on them
     (`Lags.stepAll`).  Less than a turn of RAM apart places are different, so a register that lags
     is never the address of the next word (`madr_eq_iff`).
-/
import PlayStation.Proofs.Dma.Bounds
import PlayStation.Proofs.Dma.ListTransfer

namespace PlayStation.Dma

/-! ## Steps -/

/-- The controller behind some steps, each beside some memory and some GPU. -/
def stepAll (dma : Dma) (around : List (Memory × Gpu)) : Dma :=
  around.foldl (fun dma beside => dma.perform (.step beside.1 beside.2)) dma

/-- The access that a channel makes in a step. -/
def accessOf (dma : Dma) (i : ChannelIndex) (memory : Memory) (gpu : Gpu) : Option Access :=
  if dma.select = some i then ((dma.channel i).cycle? i memory gpu).map (·.access) else none

/-- The accesses that a channel makes in some steps. -/
def accessesOf (i : ChannelIndex) (dma : Dma) : List (Memory × Gpu) → List Access
  | [] => []
  | (memory, gpu) :: around =>
    (dma.accessOf i memory gpu).toList ++ accessesOf i (dma.perform (.step memory gpu)) around

/-- The access reads a word of payload. -/
def Access.isPayload : Access → Bool
  | .payload _ => true
  | .header _ | .push _ | .pull _ | .entry _ _ => false

/-- The first accesses to a packet: its header, and `k` words of payload. -/
def packetBegun (header : UInt32) (k : Nat) : List Access :=
  .header (header &&& ramWordMask) :: (List.range k).map fun j => .payload (place header up (j + 1))

theorem packetBegun_succ (header : UInt32) (k : Nat) :
    packetBegun header (k + 1) = packetBegun header k ++ [.payload (place header up (k + 1))] := by
  rw [packetBegun, List.range_succ, List.map_append]
  rfl

/-! ## The lag -/

namespace Channel

/-- The address register of a channel names the word in front of the transfer, or the header of the
packet whose payload goes by; `made` are the accesses so far. -/
def LagsIn (c : Channel) (made : List Access) : Transfer → Prop
  | .block b => b.address = c.madr &&& ramWordMask
  | .list address .header => address = c.madr &&& ramWordMask
  | .list address (.payload remaining _) =>
    ∃ k, address = place c.madr up (k + 1) ∧ packetBegun c.madr k <:+ made ∧
      1 ≤ remaining ∧ k + remaining ≤ 255

/-- So it is for the transfer under way, if there is one. -/
def Lags (c : Channel) (made : List Access) : Prop :=
  ∀ t, c.transfer = some t → c.LagsIn made t

variable {c d : Channel} {i : ChannelIndex} {made : List Access}

theorem lags_of_idle (h : c.transfer = none) : c.Lags made := by
  intro t ht
  rw [h] at ht
  cases ht

/-- A transfer begins where the register points. -/
theorem lagsIn_of_latch {transfer : Transfer} (h : c.latch i = .ok transfer) :
    (c.start transfer).LagsIn made transfer := by
  unfold latch at h
  simp only at h
  split at h
  case h_5 => cases h
  all_goals
    cases h
    rfl

theorem Lags.started (hc : c.Lags made) (h : started? c i = some d) : d.Lags made := by
  rcases started?_eq_some h with ⟨-, rfl⟩ | ⟨-, transfer, hlatch, rfl⟩
  · exact hc
  · intro t ht
    cases ht
    exact lagsIn_of_latch hlatch

/-- At the end of a packet the register is written with the next header. -/
theorem lags_follow (c : Channel) (next : UInt32) : (c.follow next).2.Lags made := by
  unfold follow
  split
  · exact lags_of_idle rfl
  · intro t ht
    cases ht
    show next &&& ramWordMask = (next &&& 0xFFFFFF) &&& ramWordMask
    rw [UInt32.and_assoc]
    rfl

/-- Behind a header the register stays, and the payload begins one word further. -/
theorem lags_readHeader {address : UInt32} (haddress : address = c.madr &&& ramWordMask)
    (header : UInt32) : (c.readHeader address header).2.Lags (made ++ [.header address]) := by
  have hcount : Word.field header 24 8 < 256 := Nat.mod_lt _ (by decide)
  unfold readHeader
  simp only
  split
  · exact lags_follow c _
  · next hsome =>
    have hfirst : (address + 4) &&& ramWordMask = place c.madr up (0 + 1) := by
      have hzero : place c.madr up 0 = c.madr &&& ramWordMask := place_zero
      rw [haddress, ← hzero]
      exact place_succ (by decide) 0
    have hbegun : packetBegun c.madr 0 <:+ made ++ [.header address] := by
      rw [haddress]
      exact List.suffix_append made _
    intro t ht
    cases ht
    generalize Word.field header 24 8 = count at hcount hsome
    exact ⟨0, hfirst, hbegun, by omega, by omega⟩

/-- With a word of payload the lag grows by one word, if it was not the last of the packet. -/
theorem lags_passPayload {remaining k : Nat} {next : UInt32} (hpos : 1 ≤ remaining)
    (hle : k + remaining ≤ 255) (hbegun : packetBegun c.madr k <:+ made) :
    (c.passPayload (place c.madr up (k + 1)) remaining next).2.Lags
      (made ++ [.payload (place c.madr up (k + 1))]) := by
  unfold passPayload
  split
  · exact lags_follow c next
  · next hmore =>
    intro t ht
    cases ht
    refine ⟨k + 1, place_succ (by decide) (k + 1), ?_, by omega, by omega⟩
    obtain ⟨before, rfl⟩ := hbegun
    exact ⟨before, by rw [packetBegun_succ, List.append_assoc]⟩

/-- With every word of a block the register is written. -/
theorem lags_passBlock (c : Channel) (b : Block) : (c.passBlock b).2.Lags made := by
  unfold passBlock
  cases hnext : b.next? with
  | none => exact lags_of_idle rfl
  | some next =>
    have haddress : next.address = b.nextAddress := by
      unfold Block.next? at hnext
      split at hnext
      · split at hnext
        · cases hnext
        · cases hnext
          rfl
      · cases hnext
        rfl
    intro t ht
    cases ht
    show next.address = (b.nextAddress &&& 0xFFFFFF) &&& ramWordMask
    rw [haddress, Block.nextAddress, UInt32.and_assoc, UInt32.and_assoc]
    rfl

/-- **An access** keeps the lag. -/
theorem Lags.pass (hc : c.Lags made) (memory : Memory) :
    (c.pass memory).2.Lags (made ++ c.access?.toList) := by
  unfold Channel.pass access?
  split
  case h_1 hnone => exact lags_of_idle hnone
  case h_2 b hb => exact lags_passBlock c b
  case h_3 address hlist => exact lags_readHeader (hc _ hlist) _
  case h_4 address remaining next hlist =>
    obtain ⟨k, rfl, hbegun, hpos, hle⟩ := hc _ hlist
    exact lags_passPayload hpos hle hbegun

/-- **A step** keeps the lag. -/
theorem Lags.stepped (hc : c.Lags made) (memory : Memory) (gpu : Gpu) :
    (c.stepped i memory gpu).Lags
      (made ++ ((c.cycle? i memory gpu).map (·.access)).toList) := by
  cases hstarted : started? c i with
  | none =>
    rw [(step_of_refused hstarted).2]
    exact lags_of_idle rfl
  | some d =>
    have hd : d.Lags made := hc.started hstarted
    cases hwaits : d.waits gpu with
    | true =>
      rw [(step_of_waits hstarted hwaits).1, (step_of_waits hstarted hwaits).2]
      exact (List.append_nil made).symm ▸ hd
    | false =>
      have haccess : (c.cycle? i memory gpu).map (·.access) = d.access? := by
        rw [(step_of_ready hstarted hwaits).1, Option.map_map]
        exact Option.map_id' ..
      rw [haccess, (step_of_ready hstarted hwaits).2]
      rcases d.serve_cases memory with hserve | hserve <;> rw [hserve]
      · exact hd.pass memory
      · exact lags_of_idle rfl

/-- **What software reads**: the address of the next word, unless that is a word of payload. -/
theorem Lags.madr (hc : c.Lags made) (hflight : c.inFlight = true) :
    ∃ a, c.access? = some a ∧ (c.madr &&& ramWordMask = a.address ↔ a.isPayload = false) ∧
      (a.isPayload = true → ∃ k < 255, a.address = place c.madr up (k + 1) ∧
        packetBegun c.madr k <:+ made) := by
  obtain ⟨t, ht⟩ := Option.isSome_iff_exists.1 hflight
  have hlag := hc t ht
  unfold access?
  rw [ht]
  cases t with
  | block b =>
    have haddress : c.madr &&& ramWordMask = b.address := hlag.symm
    simp only
    split
    · exact ⟨_, rfl, iff_of_true haddress rfl, nofun⟩
    · split <;> exact ⟨_, rfl, iff_of_true haddress rfl, nofun⟩
  | list address phase =>
    cases phase with
    | header => exact ⟨_, rfl, iff_of_true hlag.symm rfl, nofun⟩
    | payload remaining next =>
      obtain ⟨k, rfl, hbegun, hpos, hle⟩ := hlag
      -- less than a turn behind the header is not the header
      have hzero : place c.madr up 0 = c.madr &&& ramWordMask := place_zero
      have hne : c.madr &&& ramWordMask ≠ place c.madr up (k + 1) := by
        rw [← hzero]
        exact place_ne (.inl rfl) (Nat.succ_pos k) (by omega)
      exact ⟨_, rfl, iff_of_false hne nofun, fun _ => ⟨k, by omega, rfl, hbegun⟩⟩

end Channel

/-! ## Any steps -/

variable {dma : Dma} {i : ChannelIndex} {made : List Access}

theorem channel_step (dma : Dma) (i : ChannelIndex) (memory : Memory) (gpu : Gpu) :
    (dma.perform (.step memory gpu)).channel i =
      if dma.select = some i then (dma.channel i).stepped i memory gpu else dma.channel i :=
  System.channel_move_dma ⟨dma, memory, gpu⟩ i

/-- **A step of the controller** keeps the lag, whichever channel has the bus. -/
theorem Channel.Lags.step (h : (dma.channel i).Lags made) (memory : Memory) (gpu : Gpu) :
    ((dma.perform (.step memory gpu)).channel i).Lags
      (made ++ (dma.accessOf i memory gpu).toList) := by
  rw [channel_step, accessOf]
  split
  · exact h.stepped memory gpu
  · exact (List.append_nil made).symm ▸ h

/-- **Any steps** keep it. -/
theorem Channel.Lags.stepAll (around : List (Memory × Gpu)) : ∀ {dma : Dma} {made : List Access},
    (dma.channel i).Lags made →
      ((dma.stepAll around).channel i).Lags (made ++ accessesOf i dma around) := by
  induction around with
  | nil => exact fun h => (List.append_nil _).symm ▸ h
  | cons beside around ih =>
    intro dma made h
    obtain ⟨memory, gpu⟩ := beside
    rw [accessesOf, ← List.append_assoc]
    exact ih (h.step memory gpu)

/-- **The address register of a transfer under way**, after any steps since the channel was idle: it
is the address of the next word unless that is a word of payload, and then it still names the
header of the packet, `k + 1` words behind. -/
theorem madr_eq_iff (hidle : (dma.channel i).inFlight = false) (around : List (Memory × Gpu))
    (hflight : ((dma.stepAll around).channel i).inFlight = true) :
    let c := (dma.stepAll around).channel i
    ∃ a, c.access? = some a ∧ (c.madr &&& ramWordMask = a.address ↔ a.isPayload = false) ∧
      (a.isPayload = true → ∃ k < 255, a.address = place c.madr up (k + 1) ∧
        packetBegun c.madr k <:+ accessesOf i dma around) := by
  have hnone : (dma.channel i).transfer = none := by
    rwa [Channel.inFlight, Option.isSome_eq_false_iff, Option.isNone_iff_eq_none] at hidle
  have hlags : (dma.channel i).Lags [] := Channel.lags_of_idle hnone
  exact (hlags.stepAll around).madr hflight

/-- A list has begun: the header of its one packet has been read. -/
def uploadBegun : Dma := System.upload.dma.stepAll [(System.upload.memory, System.upload.gpu)]

theorem channel_uploadBegun : (uploadBegun.channel 2).madr = 0x100 ∧
    (uploadBegun.channel 2).transfer = some (.list 0x104 (.payload 1 listEnd)) := by
  let c : Channel := (System.upload.channel 2).start (.list 0x100 .header)
  have hselect : System.upload.dma.select = some 2 := by decide
  have hstarted : started? (System.upload.dma.channel 2) 2 = some c := by decide
  have hwaits : c.waits System.upload.gpu = false := by decide
  have hserve : c.serve System.upload.memory = Channel.settle (c.readHeader 0x100 0x01FFFFFF) := by
    show Channel.settle (c.readHeader 0x100
      (Memory.ramWord (Memory.blank.setRamWord 0x100 0x01FFFFFF) 0x100)) = _
    rw [Memory.ramWord_setRamWord_self]
  have hchannel : uploadBegun.channel 2 = Channel.settle (c.readHeader 0x100 0x01FFFFFF) := by
    rw [uploadBegun, stepAll, List.foldl_cons, List.foldl_nil, channel_step, if_pos hselect,
      (Channel.step_of_ready hstarted hwaits).2, hserve]
  rw [hchannel]
  decide

theorem inFlight_uploadBegun : (uploadBegun.channel 2).inFlight = true := by
  rw [Channel.inFlight, channel_uploadBegun.2]
  rfl

theorem madr_eq_iff_upload :
    (System.upload.dma.channel 2).inFlight = false ∧ (uploadBegun.channel 2).inFlight = true ∧
    ∃ a, (uploadBegun.channel 2).access? = some a ∧
      ((uploadBegun.channel 2).madr &&& ramWordMask = a.address ↔ a.isPayload = false) ∧
      (a.isPayload = true → ∃ k < 255, a.address = place (uploadBegun.channel 2).madr up (k + 1) ∧
        packetBegun (uploadBegun.channel 2).madr k <:+
          accessesOf 2 System.upload.dma [(System.upload.memory, System.upload.gpu)]) := by
  have hidle : (System.upload.dma.channel 2).inFlight = false := by decide
  exact ⟨hidle, inFlight_uploadBegun, madr_eq_iff hidle _ inFlight_uploadBegun⟩

/-- The header at 0x100 has been read and the word of payload at 0x104 is next, but the register
has not moved. -/
theorem madr_stale :
    accessesOf 2 System.upload.dma [(System.upload.memory, System.upload.gpu)] =
      [.header 0x100] ∧
    (uploadBegun.channel 2).inFlight = true ∧
    (uploadBegun.channel 2).access? = some (.payload 0x104) ∧
    (uploadBegun.channel 2).madr &&& 0x1FFFFC = 0x100 := by
  refine ⟨by decide, inFlight_uploadBegun, ?_, ?_⟩
  · rw [Channel.access?, channel_uploadBegun.2]
  · rw [channel_uploadBegun.1]
    rfl

end PlayStation.Dma

/-
  A transfer that has begun is LATCHED.

  When a channel gets the bus for the first time, the transfer that its registers ask for is copied
  into the channel: address, step, size and count.  From then on software can write the registers
  again, and what becomes of the transfer is the same as if it had not.

  That is true of lists and of ordering tables.  A block transfer to or from the GPU, though, looks
  up its direction in the control word at every step, and whether it waits for requests
  (`Channel.lookup`).  A write that changes one of these changes the transfer under way: turned
  around, it stores over the words that it was to read (`turned_around`).

  1. **Two channels are twins** (`Channel.Twin`) when the same transfer is under way in both; their
     registers may differ.  Twins make the same step if they look up the same things
     (`Twin.cycle?_eq`, `Twin.stepped`).

  2. **Events** are the moves of a schedule and, between them, writes of registers.  Writes that
     keep the channel busy turn a system into a twin of the one without them (`Twins.write`), and
     twins stay twins with every move (`Twins.move`).

  3. **A run with such writes** makes the bus cycles of the run without (`run_latched`), if the
     transfer looks nothing up, or finds what it found in the beginning whenever it has the bus.
-/
import PlayStation.Proofs.Dma.Bounds

namespace PlayStation.Dma

/-! ## Twins -/

namespace Channel

/-- What a transfer looks up in the control word at every step: the direction of a block transfer,
and whether it waits for requests. -/
def lookup (c : Channel) : Option (Direction × Bool) :=
  match c.transfer with
  | some (.block _) => if c.device = .otc then none else some (c.direction, c.syncMode = .request)
  | some (.list _ _) => none
  | none => none

section Lookup

variable {c d : Channel}

/-- Whether there is something to look up depends on the transfer and the device. -/
theorem lookup_eq_none (htransfer : c.transfer = d.transfer) (hdevice : c.device = d.device)
    (h : d.lookup = none) : c.lookup = none := by
  unfold lookup at h ⊢
  rw [htransfer, hdevice]
  cases hunderway : d.transfer with
  | none => rfl
  | some transfer =>
    cases transfer with
    | list address phase => rfl
    | block b =>
      rw [hunderway] at h
      simp only at h ⊢
      split at h
      · next htable => rw [if_pos htable]
      · cases h

/-- What is looked up is in the control word. -/
theorem lookup_congr {b b' : Block} (hc : c.transfer = some (.block b))
    (hd : d.transfer = some (.block b')) (hdevice : c.device = d.device) (hchcr : c.chcr = d.chcr) :
    c.lookup = d.lookup := by
  unfold lookup direction syncMode
  rw [hc, hd, hdevice, hchcr]

end Lookup

/-- The same transfer is under way in two channels, or none. -/
structure Twin (c d : Channel) (i : ChannelIndex) : Prop where
  left : c.Sound i
  right : d.Sound i
  busy : c.busy = d.busy
  transfer : c.transfer = d.transfer
  /-- What is asked for is under way. -/
  flight : c.busy = c.inFlight

namespace Twin

variable {c d : Channel} {i : ChannelIndex} {memory : Memory} {gpu : Gpu}

theorem device (h : Twin c d i) : c.device = d.device := h.left.device.trans h.right.device.symm

/-- What a busy twin has under way is not started again. -/
theorem started (h : Twin c d i) (hbusy : c.busy = true) :
    started? c i = some c ∧ started? d i = some d := by
  have hflight : c.inFlight = true := h.flight.symm.trans hbusy
  obtain ⟨transfer, htransfer⟩ := Option.isSome_iff_exists.1 hflight
  exact ⟨started?_of_transfer htransfer, started?_of_transfer (h.transfer ▸ htransfer)⟩

section Alike

variable (h : Twin c d i) (hlookup : c.lookup = d.lookup)

include h hlookup

/-- The direction and the pace of a block transfer that is not a table are looked up. -/
theorem of_block {b : Block} (hblock : c.transfer = some (.block b)) (hdevice : c.device ≠ .otc) :
    c.direction = d.direction ∧ (c.syncMode = .request ↔ d.syncMode = .request) := by
  rw [Channel.lookup, Channel.lookup, ← h.transfer, hblock, ← h.device] at hlookup
  simp only [if_neg hdevice, Option.some.injEq, Prod.mk.injEq, decide_eq_decide] at hlookup
  exact hlookup

theorem blockWaits_eq {b : Block} (hblock : c.transfer = some (.block b)) :
    c.blockWaits gpu = d.blockWaits gpu := by
  by_cases hdevice : c.device = .otc
  · rw [blockWaits_of_sound h.left hdevice, blockWaits_of_sound h.right (h.device ▸ hdevice)]
  · obtain ⟨hdirection, hmode⟩ := h.of_block hlookup hblock hdevice
    rw [blockWaits, blockWaits, hdirection]
    by_cases hrequest : c.syncMode = .request
    · rw [hrequest, hmode.1 hrequest]
    · have hother : d.syncMode ≠ .request := fun hd => hrequest (hmode.2 hd)
      cases hc : c.syncMode with
      | request => exact absurd hc hrequest
      | _ =>
        cases hd : d.syncMode with
        | request => exact absurd hd hother
        | _ => rfl

/-- Twins wait together. -/
theorem waits_eq : c.waits gpu = d.waits gpu := by
  rw [waits, waits, ← h.transfer]
  cases htransfer : c.transfer with
  | none => rfl
  | some transfer =>
    cases transfer with
    | block b => exact h.blockWaits_eq hlookup htransfer
    | list address phase => rfl

/-- Twins make the same access. -/
theorem access_eq : c.access? = d.access? := by
  rw [access?, access?, ← h.transfer]
  cases htransfer : c.transfer with
  | none => rfl
  | some transfer =>
    cases transfer with
    | block b =>
      simp only
      by_cases hdevice : c.device = .otc
      · rw [if_pos hdevice, if_pos (h.device ▸ hdevice)]
      · rw [if_neg hdevice, if_neg (h.device ▸ hdevice), (h.of_block hlookup htransfer hdevice).1]
    | list address phase => cases phase <;> rfl

/-- **Twins make the same bus cycle.** -/
theorem cycle?_eq (hbusy : c.busy = true) : c.cycle? i memory gpu = d.cycle? i memory gpu := by
  obtain ⟨hc, hd⟩ := h.started hbusy
  rw [Channel.cycle?, Channel.cycle?, hc, hd]
  simp only [attempt?]
  rw [h.waits_eq hlookup, h.access_eq hlookup]

end Alike

end Twin

variable {c d : Channel} {memory : Memory}

/-- Where an access leads depends on the transfer alone. -/
theorem pass_congr (h : c.transfer = d.transfer) (memory : Memory) :
    (c.pass memory).1 = (d.pass memory).1 ∧
      (c.pass memory).2.transfer = (d.pass memory).2.transfer := by
  have hfollow : ∀ next, (c.follow next).1 = (d.follow next).1 ∧
      (c.follow next).2.transfer = (d.follow next).2.transfer := by
    intro next
    unfold follow
    split <;> exact ⟨rfl, rfl⟩
  rw [pass, pass, ← h]
  cases htransfer : c.transfer with
  | none => exact ⟨rfl, htransfer.trans (htransfer.symm.trans h)⟩
  | some transfer =>
    cases transfer with
    | block b =>
      simp only [passBlock]
      cases b.next? <;> exact ⟨rfl, rfl⟩
    | list address phase =>
      cases phase with
      | header =>
        simp only [readHeader]
        split
        · exact hfollow _
        · exact ⟨rfl, rfl⟩
      | payload remaining next =>
        simp only [passPayload]
        split
        · exact hfollow _
        · exact ⟨rfl, rfl⟩

/-- A transfer that goes on stays a block transfer, or a list. -/
theorem transfer_of_pass (h : (c.pass memory).1 ≠ .complete) :
    (∃ b b', c.transfer = some (.block b) ∧ (c.pass memory).2.transfer = some (.block b')) ∨
    ∃ a phase a' phase', c.transfer = some (.list a phase) ∧
      (c.pass memory).2.transfer = some (.list a' phase') := by
  have hfollow : ∀ next, (c.follow next).1 ≠ .complete →
      ∃ address phase, (c.follow next).2.transfer = some (.list address phase) := by
    intro next hnext
    unfold follow at hnext ⊢
    split at hnext
    · exact absurd rfl hnext
    · next hmore =>
      rw [if_neg hmore]
      exact ⟨_, _, rfl⟩
  have hheader : ∀ address word, (c.readHeader address word).1 ≠ .complete →
      ∃ a' phase', (c.readHeader address word).2.transfer = some (.list a' phase') := by
    intro address word hmore
    unfold readHeader at hmore ⊢
    simp only at hmore ⊢
    split
    · next hempty =>
      rw [if_pos hempty] at hmore
      exact hfollow _ hmore
    · exact ⟨_, _, rfl⟩
  have hpayload : ∀ address remaining next, (c.passPayload address remaining next).1 ≠ .complete →
      ∃ a' phase', (c.passPayload address remaining next).2.transfer = some (.list a' phase') := by
    intro address remaining next hmore
    unfold passPayload at hmore ⊢
    split
    · next hlast =>
      rw [if_pos hlast] at hmore
      exact hfollow _ hmore
    · exact ⟨_, _, rfl⟩
  unfold pass at h ⊢
  cases htransfer : c.transfer with
  | none =>
    rw [htransfer] at h
    exact absurd rfl h
  | some transfer =>
    rw [htransfer] at h
    cases transfer with
    | block b =>
      simp only [passBlock] at h ⊢
      cases hnext : b.next? with
      | none =>
        rw [hnext] at h
        exact absurd rfl h
      | some b' => exact .inl ⟨b, b', rfl, rfl⟩
    | list address phase =>
      cases phase with
      | header =>
        obtain ⟨a', phase', hnext⟩ := hheader _ _ h
        exact .inr ⟨address, .header, a', phase', rfl, hnext⟩
      | payload remaining next =>
        obtain ⟨a', phase', hnext⟩ := hpayload _ _ _ h
        exact .inr ⟨address, .payload remaining next, a', phase', rfl, hnext⟩

/-- An access leaves the control word alone, and so what is looked up in it. -/
theorem lookup_pass (h : (c.pass memory).1 ≠ .complete) :
    (c.pass memory).2.busy = c.busy ∧ (c.pass memory).2.inFlight = true ∧
      (c.pass memory).2.lookup = c.lookup := by
  obtain ⟨madr, transfer, hpass⟩ := c.pass_eq memory
  have hdevice : (c.pass memory).2.device = c.device := by rw [hpass]
  have hchcr : (c.pass memory).2.chcr = c.chcr := by rw [hpass]
  refine ⟨congrArg (Word.bit · 24) hchcr, ?_⟩
  rcases transfer_of_pass h with ⟨b, b', hblock, hnext⟩ | ⟨a, phase, a', phase', hlist, hnext⟩
  · rw [inFlight, hnext]
    exact ⟨rfl, lookup_congr hnext hblock hdevice hchcr⟩
  · rw [inFlight, lookup, lookup, hnext, hlist]
    exact ⟨rfl, rfl⟩

variable {i : ChannelIndex} {gpu : Gpu}

/-- **A step** changes nothing of what is looked up, as long as the transfer goes on. -/
theorem lookup_stepped (hflight : c.inFlight = true)
    (hon : (c.stepped i memory gpu).inFlight = true) :
    (c.stepped i memory gpu).lookup = c.lookup := by
  obtain ⟨transfer, htransfer⟩ := Option.isSome_iff_exists.1 hflight
  have hstarted := started?_of_transfer (i := i) htransfer
  cases hwaits : c.waits gpu with
  | true => rw [(step_of_waits hstarted hwaits).2]
  | false =>
    rw [(step_of_ready hstarted hwaits).2] at hon ⊢
    by_cases hover : (c.pass memory).1 = .complete
    · rw [serve_of_complete hover] at hon
      cases hon
    · rw [serve_of_more hover]
      exact (lookup_pass hover).2.2

namespace Twin

/-- An access leads twins to twins. -/
theorem serve (h : Twin c d i) (hbusy : c.busy = true) (hleft : (c.serve memory).Sound i)
    (hright : (d.serve memory).Sound i) : Twin (c.serve memory) (d.serve memory) i := by
  obtain ⟨hprogress, htransfer⟩ := pass_congr h.transfer memory
  by_cases hover : (c.pass memory).1 = .complete
  · -- both are over, and free
    rw [serve_of_complete hover] at hleft ⊢
    rw [serve_of_complete (hprogress ▸ hover)] at hright ⊢
    exact ⟨hleft, hright, (busy_finish _).trans (busy_finish _).symm, rfl, busy_finish _⟩
  · have hmore : (d.pass memory).1 ≠ .complete := hprogress ▸ hover
    obtain ⟨hc, hflight, -⟩ := lookup_pass hover
    rw [serve_of_more hover] at hleft ⊢
    rw [serve_of_more hmore] at hright ⊢
    refine ⟨hleft, hright, ?_, htransfer, (hc.trans hbusy).trans hflight.symm⟩
    rw [hc, (lookup_pass hmore).1]
    exact h.busy

/-- **Twins step to twins.** -/
theorem stepped (h : Twin c d i) (hlookup : c.lookup = d.lookup) (hbusy : c.busy = true) :
    Twin (c.stepped i memory gpu) (d.stepped i memory gpu) i := by
  obtain ⟨hc, hd⟩ := h.started hbusy
  have hleft := h.left.stepped memory gpu
  have hright := h.right.stepped memory gpu
  have hwait : c.waits gpu = d.waits gpu := h.waits_eq hlookup
  cases hwaits : c.waits gpu with
  | true =>
    rw [(step_of_waits hc hwaits).2, (step_of_waits hd (hwait ▸ hwaits)).2]
    exact h
  | false =>
    have hready : d.waits gpu = false := hwait ▸ hwaits
    rw [(step_of_ready hc hwaits).2] at hleft ⊢
    rw [(step_of_ready hd hready).2] at hright ⊢
    exact h.serve hbusy hleft hright

end Twin

end Channel

/-! ## Events -/

/-- What happens to a system: a move, or software writes a register of the controller. -/
inductive Event where
  | move (move : Move)
  | write (offset value : UInt32)

/-- The moves among some events. -/
def movesOf : List Event → List Move
  | [] => []
  | .move move :: events => move :: movesOf events
  | .write _ _ :: events => movesOf events

namespace System

/-- The system behind an event. -/
def happen (s : System) : Event → System
  | .move move => s.move move
  | .write offset value => { s with dma := s.dma.write offset value }

/-- The system behind some events. -/
def live (s : System) : List Event → System
  | [] => s
  | event :: events => (s.happen event).live events

/-- The bus cycles of some events. -/
def liveLog (s : System) : List Event → List BusCycle
  | [] => []
  | .move move :: events => (s.cycleOf move).toList ++ (s.move move).liveLog events
  | .write offset value :: events => (s.happen (.write offset value)).liveLog events

end System

/-- A register of a channel is written while its transfer is under way, and the channel stays
busy. -/
structure Rewrites (dma : Dma) (i : ChannelIndex) (offset value : UInt32) : Prop where
  inFlight : (dma.channel i).inFlight = true
  register : Register.ofOffset offset ∈ [.madr i, .brc i, .chcr i]
  busy : ((dma.write offset value).channel i).busy = true

/-- A write that leaves the channel busy leaves its transfer alone. -/
theorem channel_of_write {dma : Dma} {i : ChannelIndex} {offset value : UInt32}
    (hsound : (dma.channel i).Sound i)
    (hregister : Register.ofOffset offset ∈ [.madr i, .brc i, .chcr i])
    (hbusy : ((dma.write offset value).channel i).busy = true) :
    ∃ c : Channel, dma.write offset value = dma.setChannel i c ∧ c.Sound i ∧
      c.transfer = (dma.channel i).transfer := by
  simp only [List.mem_cons, List.not_mem_nil, or_false] at hregister
  rcases hregister with hmadr | hbrc | hchcr
  · refine ⟨(dma.channel i).setMadr value, ?_, ⟨hsound.device, hsound.control, hsound.transfer⟩,
      rfl⟩
    rw [Dma.write, hmadr]
  · refine ⟨{ dma.channel i with brc := value }, ?_,
      ⟨hsound.device, hsound.control, hsound.transfer⟩, rfl⟩
    rw [Dma.write, hbrc]
  · have hwrite : dma.write offset value = dma.setChannel i ((dma.channel i).setControl value) := by
      rw [Dma.write, hchcr]
    refine ⟨(dma.channel i).setControl value, hwrite, hsound.setControl value, ?_⟩
    rw [hwrite, channel_setChannel, if_pos rfl] at hbusy
    exact if_pos hbusy

namespace System

/-- Every write among some events is to a register of one channel, while its transfer is under way,
and keeps it busy. -/
def Rewritten (i : ChannelIndex) : System → List Event → Prop
  | _, [] => True
  | s, .move move :: events => (s.move move).Rewritten i events
  | s, .write offset value :: events =>
    Rewrites s.dma i offset value ∧ (s.happen (.write offset value)).Rewritten i events

/-- Whenever the channel has the bus, its transfer looks up the same. -/
def Steady (i : ChannelIndex) (found : Option (Direction × Bool)) : System → List Event → Prop
  | _, [] => True
  | s, .move move :: events =>
    (move.isDma = true → s.dma.select = some i → (s.channel i).lookup = found) ∧
      (s.move move).Steady i found events
  | s, .write offset value :: events => (s.happen (.write offset value)).Steady i found events

end System

/-- Two systems that are the same but for the registers of one channel.  In the second one, nothing
is written, and what the transfer looks up stays the same. -/
structure Twins (i : ChannelIndex) (found : Option (Direction × Bool)) (s t : System) : Prop where
  memory : s.memory = t.memory
  gpu : s.gpu = t.gpu
  dpcr : s.dma.dpcr = t.dma.dpcr
  own : Channel.Twin (s.channel i) (t.channel i) i
  others : ∀ j, i ≠ j → s.channel j = t.channel j
  found : (t.channel i).inFlight = true → (t.channel i).lookup = found

namespace Twins

variable {i : ChannelIndex} {found : Option (Direction × Bool)} {s t : System}

/-- The same channel has the bus in both. -/
theorem select_eq (h : Twins i found s t) : s.dma.select = t.dma.select := by
  apply select_congr h.dpcr
  intro j
  have hbusy : (s.channel j).busy = (t.channel j).busy := by
    by_cases hij : i = j
    · subst hij
      exact h.own.busy
    · rw [h.others j hij]
  show (s.dma.dpcr.enabled j && (s.channel j).busy) = (t.dma.dpcr.enabled j && (t.channel j).busy)
  rw [h.dpcr, hbusy]

/-- A channel that has the bus has its transfer under way. -/
theorem inFlight_of_select (h : Twins i found s t) (hselect : s.dma.select = some i) :
    (t.channel i).inFlight = true := by
  have hbusy : (s.channel i).busy = true := (System.enabled_and_busy hselect).2
  rw [Channel.inFlight, ← h.own.transfer]
  exact h.own.flight.symm.trans hbusy

/-- If nothing is looked up, or what was found, it is the same in both. -/
theorem lookup_eq (h : Twins i found s t) (hselect : s.dma.select = some i)
    (hfound : found = none ∨ (s.channel i).lookup = found) :
    (s.channel i).lookup = (t.channel i).lookup := by
  have hright : (t.channel i).lookup = found := h.found (h.inFlight_of_select hselect)
  rcases hfound with hnone | hleft
  · rw [hright, hnone]
    exact Channel.lookup_eq_none h.own.transfer h.own.device (hright.trans hnone)
  · exact hleft.trans hright.symm

theorem cycle?_eq (h : Twins i found s t)
    (hlookup : s.dma.select = some i → (s.channel i).lookup = (t.channel i).lookup) :
    s.cycle? = t.cycle? := by
  rw [System.cycle?, System.cycle?, ← h.select_eq]
  cases hselect : s.dma.select with
  | none => rfl
  | some j =>
    simp only
    rw [← h.memory, ← h.gpu]
    by_cases hij : i = j
    · subst hij
      exact h.own.cycle?_eq (hlookup hselect) (System.enabled_and_busy hselect).2
    · rw [h.others j hij]

/-- **A move** makes the same bus cycle in both, and leads to twins. -/
theorem move (h : Twins i found s t) (move : Move)
    (hlookup : move.isDma = true → s.dma.select = some i →
      (s.channel i).lookup = (t.channel i).lookup) :
    s.cycleOf move = t.cycleOf move ∧ Twins i found (s.move move) (t.move move) := by
  cases move with
  | gpu operation =>
    have hidle : ∀ s : System, s.cycleOf (.gpu operation) = none := fun _ => rfl
    rw [hidle, hidle]
    exact ⟨rfl, h.memory, congrArg (Gpu.perform · operation) h.gpu, h.dpcr, h.own, h.others,
      h.found⟩
  | dpcr value =>
    have hidle : ∀ s : System, s.cycleOf (.dpcr value) = none := fun _ => rfl
    rw [hidle, hidle]
    exact ⟨rfl, h.memory, h.gpu, rfl, h.own, h.others, h.found⟩
  | dma =>
    have hcycle := h.cycle?_eq (hlookup rfl)
    refine ⟨hcycle, ?_, ?_, ?_, ?_, ?_, ?_⟩
    · rw [System.memory_move_dma, System.memory_move_dma, hcycle, h.memory]
    · rw [System.gpu_move_dma, System.gpu_move_dma, hcycle, h.gpu]
    · rw [System.dpcr_move_dma, System.dpcr_move_dma, h.dpcr]
    · rw [System.channel_move_dma, System.channel_move_dma, ← h.select_eq, ← h.memory, ← h.gpu]
      by_cases hselect : s.dma.select = some i
      · rw [if_pos hselect, if_pos hselect]
        exact h.own.stepped (hlookup rfl hselect) (System.enabled_and_busy hselect).2
      · rw [if_neg hselect, if_neg hselect]
        exact h.own
    · intro j hij
      rw [System.channel_move_dma, System.channel_move_dma, ← h.select_eq, ← h.memory, ← h.gpu,
        h.others j hij]
    · rw [System.channel_move_dma, ← h.select_eq]
      by_cases hselect : s.dma.select = some i
      · rw [if_pos hselect]
        have hflight := h.inFlight_of_select hselect
        exact fun hon => (Channel.lookup_stepped hflight hon).trans (h.found hflight)
      · rw [if_neg hselect]
        exact h.found

/-- **A write that keeps the channel busy** leads to a twin of the system without it. -/
theorem write (h : Twins i found s t) {offset value : UInt32}
    (hwrites : Rewrites s.dma i offset value) :
    Twins i found (s.happen (.write offset value)) t := by
  obtain ⟨c, hwrite, hsound, htransfer⟩ :=
    channel_of_write h.own.left hwrites.register hwrites.busy
  have hchannel : ∀ j, (s.dma.write offset value).channel j =
      if i = j then c else s.channel j := by
    intro j
    rw [hwrite, channel_setChannel]
    rfl
  have hown : (s.dma.write offset value).channel i = c := by
    rw [hchannel, if_pos rfl]
  have hbusy : c.busy = true := hown ▸ hwrites.busy
  have hflight : c.inFlight = true := by
    rw [Channel.inFlight, htransfer]
    exact hwrites.inFlight
  have hbefore : (s.channel i).busy = true := h.own.flight.trans hwrites.inFlight
  refine ⟨h.memory, h.gpu, ?_, ?_, ?_, h.found⟩
  · show (s.dma.write offset value).dpcr = t.dma.dpcr
    rw [hwrite]
    exact h.dpcr
  · show Channel.Twin ((s.dma.write offset value).channel i) _ i
    rw [hown]
    exact ⟨hsound, h.own.right, hbusy.trans (hbefore.symm.trans h.own.busy),
      htransfer.trans h.own.transfer, hbusy.trans hflight.symm⟩
  · intro j hij
    show (s.dma.write offset value).channel j = _
    rw [hchannel, if_neg hij]
    exact h.others j hij

end Twins

/-! ## Runs -/

/-- Twins stay twins, as long as the channel stays busy and the transfer finds what it found. -/
theorem Twins.live {i : ChannelIndex} {found : Option (Direction × Bool)} (events : List Event) :
    ∀ {s t : System}, Twins i found s t → s.Rewritten i events →
      found = none ∨ s.Steady i found events →
      s.liveLog events = t.log (movesOf events) ∧
        Twins i found (s.live events) (t.run (movesOf events)) := by
  induction events with
  | nil =>
    intro s t h _ _
    exact ⟨rfl, h⟩
  | cons event events ih =>
    intro s t h hrewritten hsteady
    cases event with
    | move move =>
      have hnow : move.isDma = true → s.dma.select = some i →
          found = none ∨ (s.channel i).lookup = found :=
        fun hdma hselect => hsteady.imp_right fun h => h.1 hdma hselect
      obtain ⟨hcycle, hmoved⟩ :=
        h.move move fun hdma hselect => h.lookup_eq hselect (hnow hdma hselect)
      obtain ⟨hlog, hrun⟩ := ih hmoved hrewritten (hsteady.imp_right And.right)
      refine ⟨?_, hrun⟩
      rw [movesOf, System.log_cons, ← hcycle, ← hlog]
      rfl
    | write offset value =>
      obtain ⟨hwrites, hlater⟩ := hrewritten
      exact ih (h.write hwrites) hlater hsteady

/-- **A transfer under way is latched.**  Whatever is written to the registers of its channel in
between, as long as the channel stays busy: the run makes the bus cycles that it makes without the
writes, word by word, with RAM, the GPU and the place of the transfer the same in the end.  If the
transfer looks something up, it has to find the same whenever it has the bus. -/
theorem System.run_latched {s : System} (hreachable : Reachable s.dma) {i : ChannelIndex}
    (hflight : (s.channel i).inFlight = true) (events : List Event)
    (hrewritten : s.Rewritten i events)
    (hsteady : (s.channel i).lookup = none ∨ s.Steady i (s.channel i).lookup events) :
    s.liveLog events = s.log (movesOf events) ∧
    (s.live events).memory = (s.run (movesOf events)).memory ∧
    (s.live events).gpu = (s.run (movesOf events)).gpu ∧
    ((s.live events).channel i).transfer = ((s.run (movesOf events)).channel i).transfer := by
  have hsound := hreachable.sound i
  have hbusy : (s.channel i).busy = true :=
    (hreachable.channel_inBounds i).busy (Option.isSome_iff_ne_none.1 hflight)
  have hself : Twins i (s.channel i).lookup s s :=
    ⟨rfl, rfl, rfl, ⟨hsound, hsound, rfl, rfl, hbusy.trans hflight.symm⟩, fun _ _ => rfl,
      fun _ => rfl⟩
  obtain ⟨hlog, htwins⟩ := hself.live events hrewritten hsteady
  exact ⟨hlog, htwins.memory, htwins.gpu, htwins.own.transfer⟩

/-! ## A block on its way to the GPU -/

/-- Four words from 0x100 up are on their way to the GPU; the first one has been sent. -/
def System.sending : System :=
  ⟨(((enabling 0x07654B21).request gpuChannel 0x100 4 0x01000001).step .blank {}).2.1,
    Memory.blank.setRamWord 0x104 0x1234, {}⟩

theorem reachable_sending : Reachable System.sending.dma :=
  ((Reachable.enabling _).request 2 _ _ _).perform (.step .blank {})

/-- Address and count are written, and a control word that counts down and chops.  The direction is
turned around, and back before the controller makes its next step. -/
def System.rewriting : List Event :=
  [.write 0x20 0x8000, .write 0x24 1, .write 0x28 0x01000103, .move .dma, .write 0x28 0x01000000,
    .move (.gpu .step), .write 0x28 0x01000001, .move .dma, .move .dma, .move .dma]

theorem run_latched_sending :
    (System.sending.channel 2).inFlight = true ∧
    System.sending.liveLog System.rewriting =
      System.sending.log [.dma, .gpu .step, .dma, .dma, .dma] := by
  have hflight : (System.sending.channel 2).inFlight = true := by decide +kernel
  have hrewritten : System.sending.Rewritten 2 System.rewriting := by
    refine ⟨?_, ?_, ?_, ?_, ?_, trivial⟩
    all_goals exact ⟨by decide +kernel, by decide, by decide +kernel⟩
  have hsteady : System.sending.Steady 2 (System.sending.channel 2).lookup System.rewriting := by
    refine ⟨?_, ?_, ?_, ?_, ?_, trivial⟩ <;> decide +kernel
  exact ⟨hflight, (System.run_latched reachable_sending hflight System.rewriting hrewritten
    (.inr hsteady)).1⟩

/-- **Turned around.**  A control word that keeps the channel busy, but for the other direction: the
second word is not sent, but taken from the GPU, and stored over the one that was to be sent. -/
theorem turned_around :
    Reachable System.sending.dma ∧ (System.sending.channel 2).inFlight = true ∧
    Register.ofOffset 0x28 = .chcr 2 ∧
    ((System.sending.happen (.write 0x28 0x01000000)).channel 2).busy = true ∧
    (System.sending.log [.dma]).map (·.access) = [.push 0x104] ∧
    (System.sending.liveLog [.write 0x28 0x01000000, .move .dma]).map (·.access) = [.pull 0x104] ∧
    (System.sending.run [.dma]).memory.ramWord 0x104 = 0x1234 ∧
    (System.sending.live [.write 0x28 0x01000000, .move .dma]).memory.ramWord 0x104 = 0 := by
  let turned := System.sending.happen (.write 0x28 0x01000000)
  have hpush : System.sending.cycle?.map (·.access) = some (.push 0x104) := by decide +kernel
  have hpull : turned.cycle?.map (·.access) = some (.pull 0x104) := by decide +kernel
  obtain ⟨sent, hsent, hpushed⟩ := Option.map_eq_some_iff.1 hpush
  obtain ⟨taken, htaken, hpulled⟩ := Option.map_eq_some_iff.1 hpull
  have hword : taken.word = 0 := by
    rw [(System.of_cycle? htaken).2, hpulled]
    decide
  refine ⟨reachable_sending, by decide +kernel, by decide, by decide +kernel, ?_, ?_, ?_, ?_⟩
  · show (System.sending.cycle?.toList ++ []).map BusCycle.access = _
    rw [hsent, ← hpushed]
    rfl
  · have hcycle : turned.cycleOf .dma = some taken := htaken
    show ((turned.cycleOf .dma).toList ++ []).map BusCycle.access = _
    rw [hcycle, ← hpulled]
    rfl
  · -- what is sent stays in RAM
    have hstore : sent.store System.sending.memory = System.sending.memory := by
      unfold BusCycle.store
      rw [hpushed]
      rfl
    show (System.sending.move .dma).memory.ramWord 0x104 = 0x1234
    rw [(System.move_of_cycle hsent).1, hstore]
    exact Memory.blank.ramWord_setRamWord_self 0x104 0x1234
  · have hstore : taken.store turned.memory = turned.memory.setRamWord 0x104 0 := by
      unfold BusCycle.store
      rw [hpulled, hword]
      rfl
    show (turned.move .dma).memory.ramWord 0x104 = 0
    rw [(System.move_of_cycle htaken).1, hstore]
    exact Memory.ramWord_setRamWord_self _ 0x104 0

end PlayStation.Dma

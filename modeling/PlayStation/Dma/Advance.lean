/-
  One STEP of a transfer: at most one word.

    device sync mode     direction   waits for, in the GPU status
    OTC    manual        to RAM      nothing
    GPU    manual        both        nothing
    GPU    request       from RAM    bit 28
    GPU    request       to RAM      bit 27
    GPU    linked list   from RAM    bits 25 and 28

  Mode and direction of a block transfer are looked up in the control word at every step.
-/
import PlayStation.Dma.Channel
import PlayStation.Gpu.Basic
import PlayStation.Memory.Basic

namespace PlayStation.Dma.Channel

/-- A block transfer has to wait for the GPU. -/
def blockWaits (c : Channel) (gpu : Gpu) : Bool :=
  match c.syncMode, c.direction with
  | .request, .fromRam => !Word.bit gpu.statusWord 28
  | .request, .toRam => !Word.bit gpu.statusWord 27
  | _, _ => false

/-- A list transfer has to wait for the GPU. -/
def listWaits (gpu : Gpu) : Bool := !(Word.bit gpu.statusWord 25 && Word.bit gpu.statusWord 28)

/-- The entry of an ordering table: the address of the one below it, or the end. -/
def tableEntry (b : Block) : UInt32 :=
  if b.isLast then listEnd else (b.address - 4) &&& ramWordMask

/-- Moves one word of a block. -/
def moveWord (c : Channel) (b : Block) (memory : Memory) (gpu : Gpu) : Memory × Gpu :=
  if c.device = .otc then (memory.setRamWord b.address (tableEntry b), gpu)
  else
    match c.direction with
    | .fromRam =>
      let word := memory.ramWord b.address
      (memory, gpu.queue word)
    | .toRam =>
      let (word, gpu) := gpu.readWord
      (memory.setRamWord b.address word, gpu)

/-- Goes to the packet at `next`, or ends the transfer there. -/
def follow (c : Channel) (next : UInt32) : Progress × Channel :=
  if next == listEnd then (.complete, { c.setMadr next with transfer := none })
  else
    (.busy, { c.setMadr next with transfer := some (.list (next &&& ramWordMask) .header) })

/-- Reads the header of a packet. -/
def readHeader (c : Channel) (address header : UInt32) : Progress × Channel :=
  let count := Word.field header 24 8
  let next := header &&& 0xFFFFFF
  if count = 0 then c.follow next
  else
    (.busy,
      { c with transfer := some (.list ((address + 4) &&& ramWordMask) (.payload count next)) })

/-- Passes a payload word. -/
def passPayload (c : Channel) (address : UInt32) (remaining : Nat) (next : UInt32) :
    Progress × Channel :=
  if remaining = 1 then c.follow next
  else
    (.busy,
      { c with
        transfer := some (.list ((address + 4) &&& ramWordMask) (.payload (remaining - 1) next)) })

/-- Passes a word of a block. -/
def passBlock (c : Channel) (b : Block) : Progress × Channel :=
  match b.next? with
  | none => (.complete, { c.setMadr b.nextAddress with transfer := none })
  | some next => (.busy, { c.setMadr b.nextAddress with transfer := some (.block next) })

/-- One step of the channel's transfer. -/
def advance (c : Channel) (memory : Memory) (gpu : Gpu) :
    (Progress × Channel) × Memory × Gpu :=
  match c.transfer with
  | none => ((.complete, c), memory, gpu)
  | some (.block b) =>
    if c.blockWaits gpu then ((.waiting, c), memory, gpu)
    else (c.passBlock b, c.moveWord b memory gpu)
  | some (.list address phase) =>
    if listWaits gpu then ((.waiting, c), memory, gpu)
    else
      let word := memory.ramWord address
      match phase with
      | .header => (c.readHeader address word, memory, gpu)
      | .payload remaining next =>
        (c.passPayload address remaining next, memory, gpu.queue word)

end PlayStation.Dma.Channel

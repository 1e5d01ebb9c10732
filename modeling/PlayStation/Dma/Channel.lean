/-
  One DMA CHANNEL: three registers and perhaps a transfer.

  The control word:

    0      direction: 0 to RAM, 1 from RAM      16-18  chopping, DMA window
    1      address step: 0 up, 1 down           20-22  chopping, processor window
    8      chopping                             24     start, and busy
    9-10   sync mode                            28     trigger
                                                29-30  stored

  The ordering-table channel stores only bits 24, 28 and 30, and always counts down.
-/
import PlayStation.Dma.Register
import PlayStation.Dma.Transfer
import PlayStation.Fault

namespace PlayStation.Dma

/-- A channel. -/
structure Channel where
  device : Device
  madr : UInt32 := 0
  brc : UInt32 := 0
  /-- The control word as stored. -/
  chcr : UInt32 := 0
  transfer : Option Transfer := none
deriving DecidableEq, Repr, Inhabited

namespace Channel

/-! ## Registers -/

/-- Addresses have 24 bits. -/
def setMadr (c : Channel) (value : UInt32) : Channel := { c with madr := value &&& 0xFFFFFF }

/-- The control word as software reads it. -/
def control (c : Channel) : UInt32 := if c.device = .otc then c.chcr ||| 2 else c.chcr

/-- Writes the control word; without the busy bit, a transfer under way is dropped. -/
def setControl (c : Channel) (value : UInt32) : Channel :=
  let chcr := if c.device = .otc then value &&& 0x51000000 else value
  { c with chcr, transfer := if Word.bit chcr 24 then c.transfer else none }

/-! ## The control word -/

@[inline] def busy (c : Channel) : Bool := Word.bit c.chcr 24

def trigger (c : Channel) : Bool := Word.bit c.chcr 28

def direction (c : Channel) : Direction := if Word.bit c.chcr 0 then .fromRam else .toRam

/-- The distance from one word to the next, in bytes. -/
def addressStep (c : Channel) : UInt32 := if Word.bit c.control 1 then 0xFFFFFFFC else 4

def syncMode (c : Channel) : SyncMode :=
  match Word.field c.chcr 9 2 with
  | 0 => .manual
  | 1 => .request
  | 2 => .linkedList
  | _ => .reserved

def chopping (c : Channel) : Bool := Word.bit c.chcr 8

/-- The number of words of a block; zero stands for 0x10000. -/
def blockSize (c : Channel) : Nat :=
  let size := Word.field c.brc 0 16
  if size = 0 then 0x10000 else size

/-- The number of blocks; zero stands for 0x10000. -/
def blockCount (c : Channel) : Nat :=
  let count := Word.field c.brc 16 16
  if count = 0 then 0x10000 else count

def inFlight (c : Channel) : Bool := c.transfer.isSome

/-! ## Start and end -/

/-- The transfer that the registers ask for, if the device supports it. -/
def latch (c : Channel) (index : ChannelIndex) : Except Fault Transfer :=
  let address := c.madr &&& ramWordMask
  let blocks (step : UInt32) (count : Nat) : Transfer :=
    .block ⟨address, step, c.blockSize, c.blockSize, count⟩
  match c.device, c.syncMode, c.direction with
  | .otc, .manual, .toRam => .ok (blocks 0xFFFFFFFC 1)
  | .gpu, .manual, _ => .ok (blocks c.addressStep 1)
  | .gpu, .request, _ => .ok (blocks c.addressStep c.blockCount)
  | .gpu, .linkedList, .fromRam => .ok (.list address .header)
  | device, mode, direction =>
    .error (.unsupportedTransfer index.val device mode direction)

/-- A transfer begins; the trigger has done its work. -/
def start (c : Channel) (transfer : Transfer) : Channel :=
  { c with chcr := Word.withBit c.chcr 28 false, transfer := some transfer }

/-- The transfer is over, and the channel free. -/
def finish (c : Channel) : Channel :=
  { c with chcr := c.chcr &&& ~~~0x11000000, transfer := none }

end Channel

end PlayStation.Dma

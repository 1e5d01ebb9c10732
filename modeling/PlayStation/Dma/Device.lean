/-
  What a DMA channel is wired to, and how it can be asked to move data.

  Seven channels, each soldered to one device.  A transfer has a direction, seen from RAM, and a
  synchronisation mode, which says who sets the pace.  The names are those that a report about a
  refused transfer uses.
-/

namespace PlayStation.Dma

/-- The device at the far end of a channel. -/
inductive Device where
  | mdecIn
  | mdecOut
  | gpu
  | cdrom
  | spu
  | pio
  | otc
deriving DecidableEq, Repr, Inhabited

/-- The device that a channel is wired to, by the channel's number. -/
def Device.ofChannel (channel : Nat) : Device :=
  match channel with
  | 0 => .mdecIn
  | 1 => .mdecOut
  | 2 => .gpu
  | 3 => .cdrom
  | 4 => .spu
  | 5 => .pio
  | _ => .otc

/-- The number of the channel that a device is wired to. -/
def Device.channel : Device → Nat
  | .mdecIn => 0
  | .mdecOut => 1
  | .gpu => 2
  | .cdrom => 3
  | .spu => 4
  | .pio => 5
  | .otc => 6

@[simp] theorem Device.ofChannel_channel (d : Device) : Device.ofChannel d.channel = d := by
  cases d <;> rfl

/-- The device's name in reports. -/
def Device.name : Device → String
  | .mdecIn => "MDEC-in"
  | .mdecOut => "MDEC-out"
  | .gpu => "GPU"
  | .cdrom => "CDROM"
  | .spu => "SPU"
  | .pio => "PIO"
  | .otc => "OTC"

/-- Which way the words travel. -/
inductive Direction where
  | toRam
  | fromRam
deriving DecidableEq, Repr, Inhabited

/-- The direction's name in reports. -/
def Direction.name : Direction → String
  | .toRam => "device-to-RAM"
  | .fromRam => "RAM-to-device"

/-- Who sets the pace of a transfer. -/
inductive SyncMode where
  /-- One block, as fast as the bus allows. -/
  | manual
  /-- Blocks paced by the device. -/
  | request
  /-- Packets chained through RAM. -/
  | linkedList
  | reserved
deriving DecidableEq, Repr, Inhabited

/-- The mode's name in reports. -/
def SyncMode.name : SyncMode → String
  | .manual => "manual"
  | .request => "request"
  | .linkedList => "linked-list"
  | .reserved => "reserved"

end PlayStation.Dma
